import FenceCheck.FileTree.Lookup
import FenceCheck.Proofs.FileTree.Basic
import Mathlib.Data.List.Basic

/-! Where paths lead in related trees. A way through a tree is there in every tree that holds all that
it holds; and how far a path leads is the same in trees that differ only in their files. -/
namespace FenceCheck.FileTree
variable {t u : FileTree}

/-- A component that names an entry of a directory. -/
structure Plain (name : String) : Prop where
  notDot : name ≠ "."
  notDots : name ≠ ".."
  short : ¬ nameLimit < name.utf8ByteSize

/-- The way of components through a tree: from a place with so many links to follow to another place
with those that are left. -/
inductive Leads (t : FileTree) : Nat → Location → List String → Nat → Location → Prop where
  | here {links at_} : Leads t links at_ [] links at_
  | stay {links at_ rest left goal} : t.isDirectoryAt at_ = true →
      Leads t links at_ rest left goal → Leads t links at_ ("." :: rest) left goal
  | up {links at_ rest left goal} : t.isDirectoryAt at_ = true →
      Leads t links at_.dropLast rest left goal → Leads t links at_ (".." :: rest) left goal
  | down {links at_ name n rest left goal} : t.isDirectoryAt at_ = true → Plain name →
      t.get? (at_ ++ [name]) = some n → (∀ target, n ≠ .link target) →
      Leads t links (at_ ++ [name]) rest left goal → Leads t links at_ (name :: rest) left goal
  | follow {links at_ name target rest left goal} : t.isDirectoryAt at_ = true → Plain name →
      t.get? (at_ ++ [name]) = some (.link target) → target ≠ "" →
      Leads t links (targetStart at_ target) (targetParts target ++ rest) left goal →
      Leads t (links + 1) at_ (name :: rest) left goal

section Steps
variable {follow : Bool} {links : Nat} {at_ : Location} {rest : List String} {name : String}

theorem walk_here (t : FileTree) (follow : Bool) (links : Nat) (at_ : Location) :
    t.walk follow links at_ [] = .ok (.taken at_) := by
  rw [walk]

theorem walk_stay (inside : t.isDirectoryAt at_ = true) :
    t.walk follow links at_ ("." :: rest) = t.walk follow links at_ rest := by
  rw [walk]
  simp [inside]

theorem walk_up (inside : t.isDirectoryAt at_ = true) :
    t.walk follow links at_ (".." :: rest) = t.walk follow links at_.dropLast rest := by
  rw [walk]
  simp [inside]

theorem walk_free (inside : t.isDirectoryAt at_ = true) (plain : Plain name)
    (free : t.get? (at_ ++ [name]) = none) :
    t.walk follow links at_ (name :: rest) =
      if rest = [] then .ok (.vacant (at_ ++ [name])) else .error .notFound := by
  rw [walk]
  simp [inside, plain.notDot, plain.notDots, plain.short, free]

theorem walk_down {n : Node} (inside : t.isDirectoryAt at_ = true) (plain : Plain name)
    (there : t.get? (at_ ++ [name]) = some n) (noLink : ∀ target, n ≠ .link target) :
    t.walk follow links at_ (name :: rest) = t.walk follow links (at_ ++ [name]) rest := by
  rw [walk]
  cases n with
  | file mode bytes => simp [inside, plain.notDot, plain.notDots, plain.short, there]
  | directory mode => simp [inside, plain.notDot, plain.notDots, plain.short, there]
  | link target => exact absurd rfl (noLink target)

/-- A link is followed unless the path ends there and the caller wants the link itself. -/
theorem walk_link {target : String} (inside : t.isDirectoryAt at_ = true) (plain : Plain name)
    (there : t.get? (at_ ++ [name]) = some (.link target)) (goes : rest ≠ [] ∨ follow = true) :
    t.walk follow links at_ (name :: rest) =
      if links = 0 then .error .loop
      else if target = "" then .error .notFound
      else t.walk follow (links - 1) (targetStart at_ target) (targetParts target ++ rest) := by
  have on : ¬ (rest = [] ∧ follow = false) := by
    rintro ⟨last, stops⟩
    rcases goes with more | follows
    · exact more last
    · simp [stops] at follows
  rw [walk]
  cases links with
  | zero => simp [inside, plain.notDot, plain.notDots, plain.short, there, on]
  | succ links => simp [inside, plain.notDot, plain.notDots, plain.short, there, on]

theorem walk_link_end {target : String} (inside : t.isDirectoryAt at_ = true) (plain : Plain name)
    (there : t.get? (at_ ++ [name]) = some (.link target)) :
    t.walk false links at_ [name] = .ok (.taken (at_ ++ [name])) := by
  rw [walk]
  simp [inside, plain.notDot, plain.notDots, plain.short, there]

/-- From a place that is no directory, and at a name that is too long, there is no way on. -/
theorem walk_blocked (blocked : t.isDirectoryAt at_ = false ∨
      name ≠ "." ∧ name ≠ ".." ∧ nameLimit < name.utf8ByteSize)
    (follow : Bool) (links : Nat) (rest : List String) :
    ∃ e, t.walk follow links at_ (name :: rest) = .error e := by
  rw [walk]
  cases inside : t.isDirectoryAt at_ with
  | false => exact ⟨_, rfl⟩
  | true =>
    obtain ⟨notDot, notDots, long⟩ : name ≠ "." ∧ name ≠ ".." ∧ nameLimit < name.utf8ByteSize := by
      simpa [inside] using blocked
    exact ⟨.nameTooLong, by simp [notDot, notDots, long]⟩

end Steps

/-- What a path meets on its way is a directory, where it goes on by a dot, two dots or an entry. -/
theorem component_of_walk {follow : Bool} {links : Nat} {at_ : Location} {name : String}
    {rest : List String} {s : Spot} (found : t.walk follow links at_ (name :: rest) = .ok s) :
    t.isDirectoryAt at_ = true ∧ (name = "." ∨ name = ".." ∨ Plain name) := by
  have unblocked : ¬ (t.isDirectoryAt at_ = false ∨
      name ≠ "." ∧ name ≠ ".." ∧ nameLimit < name.utf8ByteSize) := by
    intro blocked
    obtain ⟨e, failed⟩ := walk_blocked blocked follow links rest
    rw [failed] at found
    contradiction
  refine ⟨by simpa using fun outside => unblocked (Or.inl outside), ?_⟩
  by_cases dot : name = "."
  · exact Or.inl dot
  · by_cases dots : name = ".."
    · exact Or.inr (Or.inl dots)
    · exact Or.inr (Or.inr ⟨dot, dots, fun long => unblocked (Or.inr ⟨dot, dots, long⟩)⟩)

/-- How components find their spot. In this form the walk is induced on below: each case is one
component, with what had to hold for it. -/
inductive Finds (t : FileTree) (follow : Bool) : Nat → Location → List String → Spot → Prop where
  | here {links at_} : Finds t follow links at_ [] (.taken at_)
  | stay {links at_ rest s} : t.isDirectoryAt at_ = true →
      Finds t follow links at_ rest s → Finds t follow links at_ ("." :: rest) s
  | up {links at_ rest s} : t.isDirectoryAt at_ = true →
      Finds t follow links at_.dropLast rest s → Finds t follow links at_ (".." :: rest) s
  | free {links at_ name} : t.isDirectoryAt at_ = true → Plain name →
      t.get? (at_ ++ [name]) = none → Finds t follow links at_ [name] (.vacant (at_ ++ [name]))
  | down {links at_ name n rest s} : t.isDirectoryAt at_ = true → Plain name →
      t.get? (at_ ++ [name]) = some n → (∀ target, n ≠ .link target) →
      Finds t follow links (at_ ++ [name]) rest s → Finds t follow links at_ (name :: rest) s
  | pass {links at_ name target rest s} : t.isDirectoryAt at_ = true → Plain name →
      t.get? (at_ ++ [name]) = some (.link target) → rest ≠ [] ∨ follow = true → target ≠ "" →
      Finds t follow links (targetStart at_ target) (targetParts target ++ rest) s →
      Finds t follow (links + 1) at_ (name :: rest) s
  | stop {links at_ name target} : t.isDirectoryAt at_ = true → Plain name →
      t.get? (at_ ++ [name]) = some (.link target) → follow = false →
      Finds t follow links at_ [name] (.taken (at_ ++ [name]))

theorem finds_of_walk {follow : Bool} {links : Nat} {at_ : Location} {parts : List String} {s : Spot}
    (found : t.walk follow links at_ parts = .ok s) :
    Finds t follow links at_ parts s := by
  match parts with
  | [] =>
    rw [FileTree.walk] at found
    obtain rfl := Except.ok.inj found
    exact .here
  | name :: rest =>
    obtain ⟨inside, rfl | rfl | plain⟩ := component_of_walk found
    · rw [walk_stay inside] at found
      exact .stay inside (finds_of_walk found)
    · rw [walk_up inside] at found
      exact .up inside (finds_of_walk found)
    · cases there : t.get? (at_ ++ [name]) with
      | none =>
        rw [walk_free inside plain there] at found
        split at found
        · rename_i last
          obtain rfl := Except.ok.inj found
          subst last
          exact .free inside plain there
        · contradiction
      | some n =>
        by_cases link : ∃ target, n = .link target
        · obtain ⟨target, rfl⟩ := link
          by_cases goes : rest ≠ [] ∨ follow = true
          · rw [walk_link inside plain there goes] at found
            split at found
            · contradiction
            · split at found
              · contradiction
              · rename_i some_ named
                obtain ⟨links, rfl⟩ := Nat.exists_eq_succ_of_ne_zero some_
                exact .pass inside plain there goes named (finds_of_walk found)
          · obtain ⟨rfl, rfl⟩ : rest = [] ∧ follow = false := by simpa using goes
            rw [walk_link_end inside plain there] at found
            obtain rfl := Except.ok.inj found
            exact .stop inside plain there rfl
        · have noLink : ∀ target, n ≠ .link target := fun target same => link ⟨target, same⟩
          rw [walk_down inside plain there noLink] at found
          exact .down inside plain there noLink (finds_of_walk found)
termination_by (links, parts.length)

theorem Finds.walk_eq {follow : Bool} {links : Nat} {at_ : Location} {parts : List String} {s : Spot}
    (finds : Finds t follow links at_ parts s) :
    t.walk follow links at_ parts = .ok s := by
  induction finds with
  | here => rw [FileTree.walk]
  | stay inside _ ih => rw [walk_stay inside, ih]
  | up inside _ ih => rw [walk_up inside, ih]
  | free inside plain there => rw [walk_free inside plain there, if_pos rfl]
  | down inside plain there noLink _ ih => rw [walk_down inside plain there noLink, ih]
  | pass inside plain there goes named _ ih =>
    rw [walk_link inside plain there goes, if_neg (by omega), if_neg named]
    exact ih
  | stop inside plain there stops =>
    subst stops
    exact walk_link_end inside plain there

/-- Behind a way that was found, a path leads on from its end. -/
theorem Leads.walk_append (leads : Leads t links at_ front left goal) (follow : Bool)
    (back : List String) (goes : back ≠ [] ∨ follow = true) :
    t.walk follow links at_ (front ++ back) = t.walk follow left goal back := by
  induction leads with
  | here => rfl
  | stay inside _ ih => rw [List.cons_append, walk_stay inside, ih]
  | up inside _ ih => rw [List.cons_append, walk_up inside, ih]
  | down inside plain there noLink _ ih =>
    rw [List.cons_append, walk_down inside plain there noLink, ih]
  | @follow links at_ name target rest left goal inside plain there named _ ih =>
    have further : rest ++ back ≠ [] ∨ follow = true := by
      refine goes.imp_left fun more nothing => ?_
      exact more (List.append_eq_nil_iff.mp nothing).2
    rw [List.cons_append, walk_link inside plain there further, if_neg (by omega), if_neg named,
      ← List.append_assoc]
    exact ih

theorem Leads.walk (leads : Leads t links at_ front left goal) :
    t.walk true links at_ front = .ok (.taken goal) := by
  have whole := leads.walk_append true [] (Or.inr rfl)
  rw [List.append_nil] at whole
  rw [whole, FileTree.walk]

theorem Finds.exists_leads {follow : Bool} {links : Nat} {at_ : Location}
    {parts front back : List String} {s : Spot} (finds : Finds t follow links at_ parts s)
    (split : parts = front ++ back) (goes : back ≠ [] ∨ follow = true ∧ ∃ l, s = .taken l) :
    ∃ left goal, Leads t links at_ front left goal := by
  induction finds generalizing front with
  | @here links at_ =>
    obtain ⟨rfl, _⟩ := List.append_eq_nil_iff.mp split.symm
    exact ⟨links, at_, .here⟩
  | @stay links at_ rest s inside _ ih =>
    rcases List.cons_eq_append_iff.mp split with ⟨rfl, _⟩ | ⟨front, rfl, same⟩
    · exact ⟨links, at_, .here⟩
    · obtain ⟨left, goal, leads⟩ := ih same goes
      exact ⟨left, goal, .stay inside leads⟩
  | @up links at_ rest s inside _ ih =>
    rcases List.cons_eq_append_iff.mp split with ⟨rfl, _⟩ | ⟨front, rfl, same⟩
    · exact ⟨links, at_, .here⟩
    · obtain ⟨left, goal, leads⟩ := ih same goes
      exact ⟨left, goal, .up inside leads⟩
  | @free links at_ name =>
    rcases List.cons_eq_append_iff.mp split with ⟨rfl, _⟩ | ⟨front, rfl, same⟩
    · exact ⟨links, at_, .here⟩
    · obtain ⟨rfl, rfl⟩ := List.append_eq_nil_iff.mp same.symm
      simp at goes
  | @down links at_ name n rest s inside plain there noLink _ ih =>
    rcases List.cons_eq_append_iff.mp split with ⟨rfl, _⟩ | ⟨front, rfl, same⟩
    · exact ⟨links, at_, .here⟩
    · obtain ⟨left, goal, leads⟩ := ih same goes
      exact ⟨left, goal, .down inside plain there noLink leads⟩
  | @pass links at_ name target rest s inside plain there _ named _ ih =>
    rcases List.cons_eq_append_iff.mp split with ⟨rfl, _⟩ | ⟨front, rfl, same⟩
    · exact ⟨links + 1, at_, .here⟩
    · have longer : targetParts target ++ rest = (targetParts target ++ front) ++ back := by
        rw [same, List.append_assoc]
      obtain ⟨left, goal, leads⟩ := ih longer goes
      exact ⟨left, goal, .follow inside plain there named leads⟩
  | @stop links at_ name target _ _ _ stops =>
    rcases List.cons_eq_append_iff.mp split with ⟨rfl, _⟩ | ⟨front, rfl, same⟩
    · exact ⟨links, at_, .here⟩
    · obtain ⟨rfl, rfl⟩ := List.append_eq_nil_iff.mp same.symm
      simp [stops] at goes

/-- Where a path leads somewhere, there is a way for each part of it that leads on. -/
theorem exists_leads {follow : Bool} {links : Nat} {at_ : Location} {front back : List String}
    {s : Spot} (goes : back ≠ [] ∨ follow = true ∧ ∃ l, s = .taken l)
    (found : t.walk follow links at_ (front ++ back) = .ok s) :
    ∃ left goal, Leads t links at_ front left goal :=
  (finds_of_walk found).exists_leads rfl goes

/-- A way stays where all that a tree holds is kept. -/
theorem Leads.mono (kept : ∀ l n, t.get? l = some n → u.get? l = some n)
    (leads : Leads t links at_ front left goal) : Leads u links at_ front left goal := by
  have keptDirectory (l : Location) (inside : t.isDirectoryAt l = true) :
      u.isDirectoryAt l = true := by
    obtain ⟨mode, there⟩ := isDirectoryAt_iff.mp inside
    exact isDirectoryAt_iff.mpr ⟨mode, kept l _ there⟩
  induction leads with
  | here => exact .here
  | stay inside _ ih => exact .stay (keptDirectory _ inside) ih
  | up inside _ ih => exact .up (keptDirectory _ inside) ih
  | down inside plain there noLink _ ih =>
    exact .down (keptDirectory _ inside) plain (kept _ _ there) noLink ih
  | follow inside plain there named _ ih =>
    exact .follow (keptDirectory _ inside) plain (kept _ _ there) named ih

theorem Leads.trans (first : Leads t links at_ front left middle)
    (second : Leads t left middle back rest goal) :
    Leads t links at_ (front ++ back) rest goal := by
  induction first with
  | here => exact second
  | stay inside _ ih => exact .stay inside (ih second)
  | up inside _ ih => exact .up inside (ih second)
  | down inside plain there noLink _ ih => exact .down inside plain there noLink (ih second)
  | follow inside plain there named _ ih =>
    exact .follow inside plain there named (by simpa [List.append_assoc] using ih second)

/-- There is a way for each first part of a way. -/
theorem Leads.of_append (leads : Leads t links at_ (front ++ back) left goal) :
    ∃ left goal, Leads t links at_ front left goal :=
  exists_leads (Or.inr ⟨rfl, goal, rfl⟩) leads.walk

/-- Where a path ends that names an entry of a directory. -/
theorem walk_last {links : Nat} {at_ : Location} {front : List String} {name : String} {s : Spot}
    (notDot : name ≠ ".") (notDots : name ≠ "..")
    (found : t.walk false links at_ (front ++ [name]) = .ok s) :
    ∃ left directory, Leads t links at_ front left directory ∧
      t.isDirectoryAt directory = true ∧ Plain name ∧ s.location = directory ++ [name] := by
  obtain ⟨left, directory, leads⟩ := exists_leads (Or.inl (by simp)) found
  rw [leads.walk_append false [name] (Or.inl (by simp))] at found
  obtain ⟨inside, dot | dots | plain⟩ := component_of_walk found
  · contradiction
  · contradiction
  · refine ⟨left, directory, leads, inside, plain, ?_⟩
    cases finds_of_walk found with
    | stay => contradiction
    | up => contradiction
    | free => rfl
    | down _ _ _ _ last =>
      cases last
      rfl
    | pass _ _ _ goes => simp at goes
    | stop => rfl

/-- Only where a path ends at a link does it matter whether the last link is followed. -/
theorem walk_true_of_no_link {links : Nat} {at_ : Location} {parts : List String} {s : Spot}
    (found : t.walk false links at_ parts = .ok s)
    (noLink : ∀ target, t.get? s.location ≠ some (.link target)) :
    t.walk true links at_ parts = .ok s := by
  suffices finds : Finds t true links at_ parts s from finds.walk_eq
  replace found := finds_of_walk found
  induction found with
  | here => exact .here
  | stay inside _ ih => exact .stay inside (ih noLink)
  | up inside _ ih => exact .up inside (ih noLink)
  | free inside plain there => exact .free inside plain there
  | down inside plain there other _ ih => exact .down inside plain there other (ih noLink)
  | pass inside plain there _ named _ ih =>
    exact .pass inside plain there (Or.inr rfl) named (ih noLink)
  | @stop links at_ name target _ _ there _ => exact absurd there (noLink target)

/-- A place to which a path leads is free only if nothing is there. -/
theorem get?_of_vacant {follow : Bool} {links : Nat} {at_ l : Location} {parts : List String}
    (found : t.walk follow links at_ parts = .ok (.vacant l)) : t.get? l = none := by
  replace found := finds_of_walk found
  generalize free : Spot.vacant l = s at found
  induction found with
  | here => contradiction
  | stay _ _ ih => exact ih free
  | up _ _ ih => exact ih free
  | free _ _ there =>
    obtain rfl := Spot.vacant.inj free
    exact there
  | down _ _ _ _ _ ih => exact ih free
  | pass _ _ _ _ _ _ ih => exact ih free
  | stop => contradiction

/-- A free place to which a path leads is that of an entry of a directory. -/
theorem walk_vacant {links : Nat} {at_ l : Location} {rest : List String}
    (found : t.walk false links at_ rest = .ok (.vacant l)) :
    ∃ front name left directory, rest = front ++ [name] ∧ Leads t links at_ front left directory ∧
      t.isDirectoryAt directory = true ∧ Plain name ∧ l = directory ++ [name] := by
  rcases List.eq_nil_or_concat rest with rfl | ⟨front, name, rfl⟩
  · rw [FileTree.walk] at found
    simp at found
  · rw [List.concat_eq_append] at found ⊢
    obtain ⟨left, directory, leads⟩ := exists_leads (Or.inl (by simp)) found
    have last := found
    rw [leads.walk_append false [name] (Or.inl (by simp))] at last
    obtain ⟨inside, rfl | rfl | plain⟩ := component_of_walk last
    · rw [walk_stay inside, FileTree.walk] at last
      simp at last
    · rw [walk_up inside, FileTree.walk] at last
      simp at last
    · obtain ⟨left, directory, leads, inside, plain, at_last⟩ :=
        walk_last plain.notDot plain.notDots found
      exact ⟨front, name, left, directory, rfl, leads, inside, plain, at_last⟩

/-- Where there is a way, there is something at its end, links followed or not. -/
theorem Leads.exists_taken (leads : Leads t links at_ parts left goal) :
    ∃ l, t.walk false links at_ parts = .ok (.taken l) := by
  induction leads with
  | @here links at_ => exact ⟨at_, walk_here t false links at_⟩
  | stay inside _ ih => rwa [walk_stay inside]
  | up inside _ ih => rwa [walk_up inside]
  | down inside plain there noLink _ ih => rwa [walk_down inside plain there noLink]
  | @follow links at_ name target rest left goal inside plain there named _ ih =>
    by_cases last : rest = []
    · rw [last]
      exact ⟨_, walk_link_end inside plain there⟩
    · rwa [walk_link inside plain there (Or.inl last), if_neg (by omega), if_neg named]

theorem Leads.not_vacant (leads : Leads t links at_ parts left goal) (l : Location) :
    t.walk false links at_ parts ≠ .ok (.vacant l) := by
  obtain ⟨m, walked⟩ := leads.exists_taken
  rw [walked]
  simp

/-- In a directory that holds nothing a path finds no more than a free place. -/
theorem walk_in_empty {follow : Bool} {links : Nat} {at_ : Location} {rest : List String}
    (inside : t.isDirectoryAt at_ = true) (holds : ∀ name, t.get? (at_ ++ [name]) = none)
    (noDot : "." ∉ rest) (noDots : ".." ∉ rest) {s : Spot}
    (found : t.walk follow links at_ rest = .ok s) (more : rest ≠ []) :
    ∃ name, rest = [name] ∧ s = .vacant (at_ ++ [name]) := by
  cases rest with
  | nil => contradiction
  | cons name rest =>
    obtain ⟨_, rfl | rfl | plain⟩ := component_of_walk found
    · exact absurd List.mem_cons_self noDot
    · exact absurd List.mem_cons_self noDots
    · rw [walk_free inside plain (holds name)] at found
      split at found
      · rename_i last
        exact ⟨name, by rw [last], (Except.ok.inj found).symm⟩
      · contradiction

/-- The place to which components lead, be there something or not. -/
def route (t : FileTree) (follow : Bool) (links : Nat) (at_ : Location) (rest : List String) :
    Option Location :=
  (t.walk follow links at_ rest).toOption.map Spot.location

theorem route_of_error {follow : Bool} {links : Nat} {at_ : Location} {rest : List String}
    {e : Refusal} (failed : t.walk follow links at_ rest = .error e) :
    t.route follow links at_ rest = none := by
  rw [route, failed]
  rfl

theorem route_eq_some {follow : Bool} {links : Nat} {at_ l : Location} {rest : List String} :
    t.route follow links at_ rest = some l ↔
      ∃ s, Finds t follow links at_ rest s ∧ s.location = l := by
  constructor
  · intro leads
    cases found : t.walk follow links at_ rest with
    | error e =>
      rw [route_of_error found] at leads
      contradiction
    | ok s =>
      rw [route, found] at leads
      exact ⟨s, finds_of_walk found, Option.some.inj leads⟩
  · rintro ⟨s, finds, rfl⟩
    rw [route, finds.walk_eq]
    rfl

/-- Where no path leads on, one that ends there has come to its place. -/
theorem finds_closed {links : Nat} {at_ : Location} {name : String} (follow : Bool)
    (inside : t.isDirectoryAt at_ = true) (plain : Plain name)
    (closed : t.passage (at_ ++ [name]) = .closed) :
    ∃ s, Finds t follow links at_ [name] s ∧ s.location = at_ ++ [name] := by
  rcases passage_closed.mp closed with free | ⟨mode, bytes, there⟩
  · exact ⟨_, .free inside plain free, rfl⟩
  · exact ⟨_, .down inside plain there (by simp) .here, rfl⟩

theorem Finds.congr {follow : Bool} {links : Nat} {at_ : Location} {parts : List String} {s : Spot}
    (finds : Finds t follow links at_ parts s) (same : t.passage = u.passage) :
    ∃ s', Finds u follow links at_ parts s' ∧ s'.location = s.location := by
  have sameDirectory {l : Location} (inside : t.isDirectoryAt l = true) :
      u.isDirectoryAt l = true := by
    rwa [← passage_directory, ← same, passage_directory]
  have sameLink {l : Location} {target : String} (there : t.get? l = some (.link target)) :
      u.get? l = some (.link target) := by
    rwa [← passage_link, ← same, passage_link]
  induction finds with
  | here => exact ⟨_, .here, rfl⟩
  | stay inside _ ih =>
    obtain ⟨s', finds, located⟩ := ih
    exact ⟨s', .stay (sameDirectory inside) finds, located⟩
  | up inside _ ih =>
    obtain ⟨s', finds, located⟩ := ih
    exact ⟨s', .up (sameDirectory inside) finds, located⟩
  | free inside plain there =>
    have closed := passage_closed.mpr (Or.inl there)
    exact finds_closed follow (sameDirectory inside) plain (same ▸ closed)
  | @down links at_ name n rest s inside plain there noLink last ih =>
    cases way : t.passage (at_ ++ [name]) with
    | closed =>
      -- a file: the path has to end there, and in the other tree there may be nothing
      cases rest with
      | nil =>
        cases last
        exact finds_closed follow (sameDirectory inside) plain (same ▸ way)
      | cons next rest =>
        obtain ⟨entered, _⟩ := component_of_walk last.walk_eq
        rw [passage_directory.mpr entered] at way
        contradiction
    | directory =>
      obtain ⟨s', finds, located⟩ := ih
      obtain ⟨mode, there'⟩ := isDirectoryAt_iff.mp (sameDirectory (passage_directory.mp way))
      exact ⟨s', .down (sameDirectory inside) plain there' (by simp) finds, located⟩
    | link target =>
      have link := there.symm.trans (passage_link.mp way)
      exact absurd (Option.some.inj link) (noLink target)
  | pass inside plain there goes named _ ih =>
    obtain ⟨s', finds, located⟩ := ih
    exact ⟨s', .pass (sameDirectory inside) plain (sameLink there) goes named finds, located⟩
  | stop inside plain there stops =>
    exact ⟨_, .stop (sameDirectory inside) plain (sameLink there) stops, rfl⟩

/-- In trees that differ in their files alone, paths lead to the same places. -/
theorem route_congr (same : t.passage = u.passage) (follow : Bool) (links : Nat) (at_ : Location)
    (rest : List String) : t.route follow links at_ rest = u.route follow links at_ rest := by
  apply Option.ext
  intro l
  rw [route_eq_some, route_eq_some]
  constructor
  · rintro ⟨s, finds, rfl⟩
    exact finds.congr same
  · rintro ⟨s, finds, rfl⟩
    exact finds.congr same.symm

end FenceCheck.FileTree
