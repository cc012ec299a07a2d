import FenceCheck.Proofs.Json.RoundTrip

/-! Texts tell values apart and nothing else. Equal values have the same text, whatever the order of
their members, because members are written in the order of their keys and the keys of an object differ.
Values with the same text are equal, because the text is read back as either. -/
namespace FenceCheck.Json
open FenceCheck.Text FenceCheck.Number

section Order
variable {a b c : List CodePoint}

theorem stringLE_total (a b : List CodePoint) : (stringLE a b || stringLE b a) = true := by
  induction a generalizing b with
  | nil => simp [stringLE]
  | cons p s ih =>
    cases b with
    | nil => simp [stringLE]
    | cons q t =>
      have rest := ih t
      simp only [stringLE, Bool.or_eq_true, Bool.and_eq_true, decide_eq_true_eq] at rest ⊢
      rcases lt_trichotomy p.val q.val with lower | same | higher
      · exact .inl (.inl lower)
      · exact rest.imp (fun up => .inr ⟨same, up⟩) fun down => .inr ⟨same.symm, down⟩
      · exact .inr (.inl higher)

theorem stringLE_trans (first : stringLE a b = true) (second : stringLE b c = true) :
    stringLE a c = true := by
  induction a generalizing b c with
  | nil => simp [stringLE]
  | cons p s ih =>
    cases b with
    | nil => simp [stringLE] at first
    | cons q t =>
      cases c with
      | nil => simp [stringLE] at second
      | cons r u =>
        simp only [stringLE, Bool.or_eq_true, Bool.and_eq_true, decide_eq_true_eq] at first second ⊢
        rcases first with first | ⟨same, first⟩
        · omega
        · rcases second with second | ⟨same', second⟩
          · omega
          · exact .inr ⟨same.trans same', ih first second⟩

theorem stringLE_antisymm (up : stringLE a b = true) (down : stringLE b a = true) : a = b := by
  induction a generalizing b with
  | nil =>
    cases b with
    | nil => rfl
    | cons q t => simp [stringLE] at down
  | cons p s ih =>
    cases b with
    | nil => simp [stringLE] at up
    | cons q t =>
      simp only [stringLE, Bool.or_eq_true, Bool.and_eq_true, decide_eq_true_eq] at up down
      rcases up with lower | ⟨same, up⟩
      · omega
      · rcases down with higher | ⟨_, down⟩
        · omega
        · rw [CodePoint.ext_val same, ih up down]

/-- Where keys differ, what is sorted does not depend on the order that it had before. -/
theorem mergeSort_key_congr {α : Type} {members others : List (List CodePoint × α)}
    (same : members.Perm others) (distinct : (members.map Prod.fst).Nodup) :
    members.mergeSort keyLE = others.mergeSort keyLE := by
  have trans (a b c : List CodePoint × α) (first : keyLE a b = true) (second : keyLE b c = true) :
      keyLE a c = true := stringLE_trans first second
  have total (a b : List CodePoint × α) : (keyLE a b || keyLE b a) = true := stringLE_total a.1 b.1
  have sorted := List.pairwise_mergeSort trans total
  have perm := (List.mergeSort_perm members keyLE).trans
    (same.trans (List.mergeSort_perm others keyLE).symm)
  refine perm.eq_of_pairwise (fun a b inside inside' up down => ?_) (sorted members) (sorted others)
  -- keys that are equal belong to one member
  have inside := (List.mergeSort_perm members keyLE).mem_iff.mp inside
  have inside' := same.mem_iff.mpr ((List.mergeSort_perm others keyLE).mem_iff.mp inside')
  exact List.inj_on_of_nodup_map distinct inside inside' (stringLE_antisymm up down)

end Order

namespace Same
variable {u v w : Json}

theorem symm (same : Same v w) : Same w v := by
  induction same with
  | null => exact .null
  | bool => exact .bool
  | int => exact .int
  | float => exact .float
  | string => exact .string
  | array lengths _ ih => exact .array lengths.symm fun i v w there there' => ih i w v there' there
  | object bound _ ih =>
    exact .object (fun k => (bound k).symm) fun k v w there there' => ih k w v there' there

theorem trans (first : Same u v) (second : Same v w) : Same u w := by
  induction first generalizing w with
  | null => exact second
  | bool => exact second
  | int => exact second
  | float => exact second
  | string => exact second
  | @array items others lengths _ ih =>
    cases second with
    | @array _ last lengths' values =>
      refine .array (lengths.trans lengths') fun i x z there there' => ?_
      have inside : i < others.length := lengths ▸ (List.getElem?_eq_some_iff.mp there).1
      have middle := List.getElem?_eq_getElem inside
      exact ih i x _ there middle (values i _ z middle there')
  | @object members others bound _ ih =>
    cases second with
    | @object _ last bound' values =>
      refine .object (fun k => (bound k).trans (bound' k)) fun k x z there there' => ?_
      have some_ : lookup k others ≠ none := by
        rw [ne_eq, ← bound, there]
        simp
      obtain ⟨y, middle⟩ := Option.ne_none_iff_exists'.mp some_
      exact ih k x y there middle (values k y z middle there')

end Same

section Values
variable {depth : Nat} {v w : Json} {layout : Layout}

theorem nodup_of_keys {members : Members} (distinct : (members.map Prod.fst).Nodup) (f : Json → List CodePoint) :
    (members.map fun m => (m.1, f m.2)).Nodup := by
  refine List.Nodup.of_map Prod.fst ?_
  simpa [Function.comp_def] using distinct

/-- Objects that bind the same keys to values of the same text have their members' texts in common. -/
theorem perm_texts {members others : Members} (f : Json → List CodePoint)
    (distinct : (members.map Prod.fst).Nodup) (distinct' : (others.map Prod.fst).Nodup)
    (bound : ∀ k, lookup k members = none ↔ lookup k others = none)
    (texts : ∀ k v w, lookup k members = some v → lookup k others = some w → f v = f w) :
    (members.map fun m => (m.1, f m.2)).Perm (others.map fun m => (m.1, f m.2)) := by
  have texts_mem {ms : Members} (distinct : (ms.map Prod.fst).Nodup) (k : List CodePoint)
      (t : List CodePoint) : (k, t) ∈ ms.map (fun m => (m.1, f m.2)) ↔
        (lookup k ms).map f = some t := by
    simp only [List.mem_map, Prod.mk.injEq, Option.map_eq_some_iff]
    constructor
    · rintro ⟨m, member, rfl, rfl⟩
      exact ⟨m.2, lookup_of_mem distinct member, rfl⟩
    · rintro ⟨x, there, rfl⟩
      exact ⟨(k, x), mem_of_lookup there, rfl, rfl⟩
  have found (k : List CodePoint) : (lookup k members).map f = (lookup k others).map f := by
    cases there : lookup k members with
    | none => rw [(bound k).mp there]
    | some x =>
      have some_ : lookup k others ≠ none := by
        rw [ne_eq, ← bound, there]
        simp
      obtain ⟨y, there'⟩ := Option.ne_none_iff_exists'.mp some_
      rw [there', Option.map_some, Option.map_some, texts k x y there there']
  refine (List.perm_ext_iff_of_nodup (nodup_of_keys distinct f) (nodup_of_keys distinct' f)).mpr ?_
  rintro ⟨k, t⟩
  rw [texts_mem distinct, texts_mem distinct', found]

/-- Equal values have the same text. -/
theorem Legible.renderAt_congr (legible : Legible depth v) (legible' : Legible depth w)
    (same : Same v w) (layout : Layout) (level : Nat) :
    renderAt layout level v = renderAt layout level w := by
  induction same generalizing depth level with
  | null => rfl
  | bool => rfl
  | int => rfl
  | float => rfl
  | string => rfl
  | @array items others lengths _ ih =>
    cases legible with
    | array legible =>
      cases legible' with
      | array legible' =>
        rw [renderAt, renderAt, renderItems_eq_map, renderItems_eq_map]
        congr 1
        refine List.ext_getElem (by simpa using lengths) fun i inside inside' => ?_
        rw [List.length_map] at inside inside'
        rw [List.getElem_map, List.getElem_map]
        exact ih i _ _ (List.getElem?_eq_getElem inside) (List.getElem?_eq_getElem inside')
          (legible _ (List.getElem_mem inside)) (legible' _ (List.getElem_mem inside')) (level + 1)
  | @object members others bound _ ih =>
    cases legible with
    | object distinct _ legible =>
      cases legible' with
      | object distinct' _ legible' =>
        have perm := perm_texts (renderAt layout (level + 1)) distinct distinct' bound
          fun k x y there there' => ih k x y there there' (legible _ (mem_of_lookup there))
            (legible' _ (mem_of_lookup there')) (level + 1)
        have sorted := mergeSort_key_congr perm (by simpa [Function.comp_def] using distinct)
        rw [mergeSort_map, mergeSort_map] at sorted
        rw [renderAt_object, renderAt_object]
        have written := congrArg (List.map fun m =>
          renderString layout.ascii m.1 ++ points [':', ' '] ++ m.2) sorted
        simpa [Function.comp_def] using congrArg (enclose layout level '{' '}') written

/-- A character that ASCII has and that is no control character. -/
def Printable (c : Char) : Prop :=
  0x20 ≤ c.toNat ∧ c.toNat ≤ 0x7E

instance (c : Char) : Decidable (Printable c) := inferInstanceAs (Decidable (_ ∧ _))

theorem Printable.ne_feed {c : Char} (printable : Printable c) : c ≠ '\n' := by
  rintro rfl
  exact absurd printable (by decide)

theorem printable_of_all {text : List Char} (all : (text.all fun c => decide (Printable c)) = true) :
    ∀ c ∈ text, Printable c :=
  fun c member => of_decide_eq_true (List.all_eq_true.mp all c member)

theorem printable_of_marks : ∀ c ∈ marks, Printable c :=
  printable_of_all (by decide)

theorem printable_unitEscape (n : Nat) : ∀ c ∈ unitEscape n, Printable c := by
  have digits : ∀ i : Fin 16, Printable (hexDigit i) := by decide
  intro c member
  simp only [unitEscape, List.mem_cons] at member
  rcases member with rfl | rfl | inside
  · decide
  · decide
  · obtain ⟨i, rfl⟩ := mem_hexFixed inside
    exact digits i

theorem printable_numberEscape (n : Nat) : ∀ c ∈ numberEscape n, Printable c := by
  intro c member
  unfold numberEscape at member
  split at member
  · exact printable_unitEscape _ c member
  · rcases List.mem_append.mp member with high | low
    · exact printable_unitEscape _ c high
    · exact printable_unitEscape _ c low

/-- Where everything outside printable ASCII is escaped, all that is written of a string is printable. -/
theorem printable_of_escape_ascii (p : CodePoint) : ∀ c ∈ chars (escape true p), Printable c := by
  intro c member
  have letter (d : Char) (fine : Printable d) (inside : c ∈ chars (points ['\\', d])) : Printable c := by
    rw [chars_points, List.mem_cons, List.mem_singleton] at inside
    rcases inside with rfl | rfl
    · decide
    · exact fine
  unfold escape at member
  split_ifs at member with mark backslash backspace feed line back tab special
  · exact letter '"' (by decide) member
  · exact letter '\\' (by decide) member
  · exact letter 'b' (by decide) member
  · exact letter 'f' (by decide) member
  · exact letter 'n' (by decide) member
  · exact letter 'r' (by decide) member
  · exact letter 't' (by decide) member
  · rw [chars_points] at member
    exact printable_numberEscape _ c member
  · obtain rfl : c = p.toChar := by simpa using member
    have bounds : 0x20 ≤ p.val ∧ p.val ≤ 0x7E := by simpa using special
    have scalar : p.isSurrogate = false := CodePoint.isSurrogate_eq_false.mpr (by omega)
    rwa [Printable, CodePoint.toNat_toChar scalar]

/-- Text on one line is printable. -/
theorem Legible.printable_compact (legible : Legible depth v) (level : Nat) :
    ∀ c ∈ chars (renderAt .compact level v), Printable c :=
  legible.forall_render printable_of_marks (fun spread => absurd spread (by decide))
    (fun p _ => printable_of_escape_ascii p) level

theorem Legible.printable_pretty (legible : Legible depth v) (level : Nat) :
    ∀ c ∈ chars (renderAt .pretty level v), Printable c ∨ c = '\n' :=
  legible.forall_render (fun c member => .inl (printable_of_marks c member)) (fun _ => .inr rfl)
    (fun p _ c member => .inl (printable_of_escape_ascii p c member)) level

theorem getLast?_enclose (level : Nat) (opening closing : Char) (texts : List (List CodePoint)) :
    (chars (enclose layout level opening closing texts)).getLast? = some closing := by
  cases texts with
  | nil => simp [enclose]
  | cons first more => simp [enclose, List.getLast?_cons]

/-- No value ends with a line feed. -/
theorem Legible.getLast?_ne_feed (legible : Legible depth v) (layout : Layout) (level : Nat) :
    (chars (renderAt layout level v)).getLast? ≠ some '\n' := by
  have printable := legible.printable_compact level
  -- a scalar is written in the same way in all layouts, so it is printable
  have scalar (same : renderAt layout level v = renderAt .compact level v) :
      (chars (renderAt layout level v)).getLast? ≠ some '\n' := by
    rw [same]
    intro last
    exact (printable _ (List.mem_of_getLast? last)).ne_feed rfl
  cases legible with
  | null => exact scalar rfl
  | bool => exact scalar rfl
  | int => exact scalar rfl
  | string => simp [renderAt, renderString, List.getLast?_cons]
  | array => simp [renderAt, getLast?_enclose]
  | object => simp [renderAt, getLast?_enclose]

end Values

/-- The styles in which values are written. -/
inductive Style where
  /-- On one line. -/
  | compact
  /-- Indented. -/
  | pretty
  /-- As files are. -/
  | artifact
  deriving DecidableEq, Repr

/-- The text of a value. -/
def Style.text (v : Json) : Style → String
  | .compact => ofCodePoints (v.render .compact)
  | .pretty => ofCodePoints (v.render .pretty)
  | .artifact => ofCodePoints v.renderArtifact

section Styles
variable {v w : Json} {depth : Nat}

theorem Legible.read_text (legible : Legible depthLimit v) (style : Style) :
    read (style.text v) = .ok v.ordered := by
  cases style with
  | compact => exact legible.read_render .compact
  | pretty => exact legible.read_render .pretty
  | artifact => exact legible.read_renderArtifact

theorem Legible.text_congr (legible : Legible depth v) (legible' : Legible depth w) (same : Same v w)
    (style : Style) : style.text v = style.text w := by
  cases style with
  | compact => exact congrArg ofCodePoints (legible.renderAt_congr legible' same _ 0)
  | pretty => exact congrArg ofCodePoints (legible.renderAt_congr legible' same _ 0)
  | artifact =>
    have written := legible.renderAt_congr legible' same .artifact 0
    exact congrArg (fun text => ofCodePoints (text ++ points ['\n'])) written

theorem Legible.same_self (legible : Legible depth v) : Same v v :=
  legible.ordered_same.symm.trans legible.ordered_same

/-- The order of members does not matter. -/
theorem Legible.same_of_perm {members others : Members} (legible : Legible depth (.object members))
    (perm : members.Perm others) : Same (.object members) (.object others) := by
  cases legible with
  | object distinct _ legible =>
    have bound := lookup_perm perm distinct
    refine .object (fun k => by rw [bound]) fun k v w there there' => ?_
    obtain rfl : v = w := Option.some.inj (there.symm.trans ((bound k).trans there'))
    exact (legible (k, v) (mem_of_lookup there)).same_self

theorem Legible.same_of_text (legible : Legible depthLimit v) (legible' : Legible depthLimit w)
    {style : Style} (texts : style.text v = style.text w) : Same v w := by
  have read := legible.read_text style
  rw [texts, legible'.read_text style] at read
  have ordered : Same v.ordered w := Except.ok.inj read ▸ legible'.ordered_same
  exact legible.ordered_same.symm.trans ordered

theorem toList_text_compact (v : Json) :
    (Style.compact.text v).toList = chars (renderAt .compact 0 v) := by
  simp [Style.text, ofCodePoints, chars, render]

theorem toList_text_pretty (v : Json) :
    (Style.pretty.text v).toList = chars (renderAt .pretty 0 v) := by
  simp [Style.text, ofCodePoints, chars, render]

theorem text_artifact (v : Json) :
    Style.artifact.text v = ofCodePoints (v.render .artifact) ++ "\n" := by
  simp [Style.text, ofCodePoints, renderArtifact, points, String.ofList_append]

/-- In each style, what is read of the text of a value is that value, and two values have the same text
just if they are equal, so that the order of members never shows. Text on one line is all printable ASCII,
indented text is so but for its line feeds, and a file ends in just one line feed. -/
theorem text_faithful {v w : Json} (legible : Legible depthLimit v) (legible' : Legible depthLimit w)
    (style : Style) :
    (∃ value, read (style.text v) = .ok value ∧ value.Same v) ∧
    (style.text v = style.text w ↔ v.Same w) ∧
    (∀ c ∈ (Style.compact.text v).toList, Printable c) ∧
    (∀ c ∈ (Style.pretty.text v).toList, Printable c ∨ c = '\n') ∧
    ∃ text, Style.artifact.text v = text ++ "\n" ∧ text.toList.getLast? ≠ some '\n' := by
  refine ⟨⟨_, legible.read_text style, legible.ordered_same⟩,
    ⟨legible.same_of_text legible', fun same => legible.text_congr legible' same style⟩, ?_, ?_, ?_⟩
  · rw [toList_text_compact]
    exact legible.printable_compact 0
  · rw [toList_text_pretty]
    exact legible.printable_pretty 0
  · refine ⟨_, text_artifact v, ?_⟩
    have last := legible.getLast?_ne_feed .artifact 0
    simpa [ofCodePoints, chars, render] using last

/-- Two members in either order, one with a character beyond the first plane. -/
theorem text_faithful_members :
    let a : String × Json := ("a", .array [.null, .int (-3)])
    let b : String × Json := ("b", .text "𝄞")
    Legible depthLimit (.ofMembers [a, b]) ∧ Legible depthLimit (.ofMembers [b, a]) ∧
      ∀ style : Style, style.text (.ofMembers [a, b]) = style.text (.ofMembers [b, a]) ∧
        ∃ value, read (style.text (.ofMembers [a, b])) = .ok value ∧ value.Same (.ofMembers [a, b]) := by
  intro a b
  have list : Legible 989 a.2 := by
    refine .array ?_
    rw [List.forall_mem_cons, List.forall_mem_singleton]
    exact ⟨.null, .int (by decide)⟩
  have members (ms : List (String × Json)) (perm : ms.Perm [a, b]) :
      Legible depthLimit (.ofMembers ms) := by
    refine .ofMembers ((perm.map Prod.fst).nodup_iff.mpr (by decide)) fun m member => ?_
    rcases List.mem_cons.mp (perm.mem_iff.mp member) with rfl | last
    · exact list
    · obtain rfl := List.mem_singleton.mp last
      exact .text _
  have legible := members [a, b] (.refl _)
  have legible' := members [b, a] (.swap a b [])
  refine ⟨legible, legible', fun style => ?_⟩
  obtain ⟨back, texts, _⟩ := text_faithful legible legible' style
  exact ⟨texts.mpr (legible.same_of_perm (.swap _ _ [])), back⟩

end Styles
end FenceCheck.Json
