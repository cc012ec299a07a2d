import FenceCheck.Program.Peg

/-!
The grammar of targets: what is assigned to, looped over or deleted. A target is a name, a part of
something, or targets in brackets.
-/
namespace FenceCheck.Program.Grammar

/-- A part of something: an attribute or an element, with a condition on what follows. -/
def partOf (follows : Peg) : List Alternative := [
  ⟨[ref .targetPrimary, ".", aName, follows], plain⟩,
  ⟨[ref .targetPrimary, "[", ref .slices, "]", follows], plain⟩]

def targetRules : Rule → List Alternative
  | .starTargets => [
      ⟨[ref .starTarget, .notAhead ","], pick 0⟩,
      ⟨[ref .starTarget, .many (.inOrder 1 [",", ref .starTarget]), .opt ","], plain⟩]
  | .targetList => [⟨[.separated "," (ref .starTarget), .opt ","], plain⟩]
  | .targetTuple => [
      ⟨[ref .starTarget, .several (.inOrder 1 [",", ref .starTarget]), .opt ","], plain⟩,
      ⟨[ref .starTarget, ","], plain⟩]
  | .starTarget => [
      ⟨["*", .inOrder 1 [.notAhead "*", ref .starTarget]], plain⟩,
      ⟨[ref .targetStarAtom], pick 0⟩]
  | .targetStarAtom => partOf (.notAhead (ref .targetAhead)) ++ [⟨[ref .starAtom], pick 0⟩]
  | .starAtom => [
      ⟨[aName], plain⟩,
      ⟨["(", ref .targetStarAtom, ")"], plain⟩,
      ⟨["(", .opt (ref .targetTuple), ")"], plain⟩,
      ⟨["[", .opt (ref .targetList), "]"], plain⟩]
  | .singleTarget => [
      ⟨[ref .singlePartTarget], pick 0⟩,
      ⟨[aName], pick 0⟩,
      ⟨["(", ref .singleTarget, ")"], pick 1⟩]
  | .singlePartTarget => partOf (.notAhead (ref .targetAhead))
  | .targetPrimary => partOf (.ahead (ref .targetAhead)) ++ [
      ⟨[ref .targetPrimary, ref .generator, .ahead (ref .targetAhead)], plain⟩,
      ⟨[ref .targetPrimary, "(", .opt (ref .arguments), ")", .ahead (ref .targetAhead)], plain⟩,
      ⟨[ref .atom, .ahead (ref .targetAhead)], pick 0⟩]
  | .targetAhead => [⟨["("], plain⟩, ⟨["["], plain⟩, ⟨["."], plain⟩]
  | .deleteTargets => [⟨[.separated "," (ref .deleteTarget), .opt ","], plain⟩]
  | .deleteTarget => partOf (.notAhead (ref .targetAhead)) ++ [⟨[ref .deleteAtom], pick 0⟩]
  | .deleteAtom => [
      ⟨[aName], plain⟩,
      ⟨["(", ref .deleteTarget, ")"], plain⟩,
      ⟨["(", .opt (ref .deleteTargets), ")"], plain⟩,
      ⟨["[", .opt (ref .deleteTargets), "]"], plain⟩]
  | _ => []

end FenceCheck.Program.Grammar
