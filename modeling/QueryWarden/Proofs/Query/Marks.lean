import QueryWarden.Proofs.Query.Sanitation
import QueryWarden.Proofs.Value.Places

/-!
# Where a sanitation stops

Sanitation stops at unusable clauses, which it drops, and at options beside a pattern that are no
text, which it repairs; it goes on behind every other step.  The places of a tree that it reaches in
this way are the visited ones.  The clauses among them are the marked ones, and the options among them
the repaired ones (`marked`, `repaired`).

`reportOf` lists the paths of the former and counts the latter, and it follows the steps of the tree
(`reportOf_append`, `reportOf_startingAt_of_isOpen`).
-/

namespace QueryWarden.Sanitation

def isUnusable (e : Edge) : Bool :=
  Pattern.isUnusableClause e.part

/-- Whether a step leads to options beside a pattern that are neither a text nor an unusable
clause. -/
def isRepairable : Edge → Bool
  | .entry siblings k v =>
    !Pattern.isUnusableClause v && (k == "$options" && Fields.has siblings "$regex" && !v.isString)
  | .item _ _ => false

/-- Whether sanitation goes on behind a step. -/
def isOpen (e : Edge) : Bool :=
  !isUnusable e && !isRepairable e

/-- The places above which all steps are open. -/
def visited (ps : List Place) : List Place :=
  ps.filter fun p => p.above.all isOpen

/-- The unusable clauses below the root of a tree that stand in no other one and in no options that
are repaired. -/
def marked (t : Value) : List Place :=
  (visited t.places).filter fun p => isUnusable p.last

def repaired (t : Value) : List Place :=
  (visited t.places).filter fun p => isRepairable p.last

/-- The path behind a step from a path. -/
def pathBehind (path : String) : Edge → String
  | .entry _ k _ => entryPath path k
  | .item i _ => itemPath path i

/-- The path of a place below a path. -/
def pathFrom (path : String) (p : Place) : String :=
  pathBehind (p.above.foldl pathBehind path) p.last

/-! ## The three kinds of steps -/

section Edge

variable {e : Edge}

theorem isRepairable_of_isUnusable (h : isUnusable e = true) : isRepairable e = false := by
  cases e with
  | entry siblings k v =>
    have hv : Pattern.isUnusableClause v = true := h
    rw [isRepairable, hv]
    rfl
  | item i v => rfl

theorem isOpen_of_isUnusable (h : isUnusable e = true) : isOpen e = false := by
  rw [isOpen, h]
  rfl

theorem isOpen_of_isRepairable (h : isRepairable e = true) : isOpen e = false := by
  rw [isOpen, h]
  exact Bool.and_false _

theorem isOpen_of_not (hu : isUnusable e = false) (hr : isRepairable e = false) :
    isOpen e = true := by
  rw [isOpen, hu, hr]
  rfl

end Edge

/-! ## Reports -/

def reportOf (path : String) (ps : List Place) : SanitationReport :=
  ⟨((visited ps).filter fun p => isUnusable p.last).map (pathFrom path),
    ((visited ps).filter fun p => isRepairable p.last).length⟩

theorem reportOf_nil (path : String) : reportOf path [] = .empty := rfl

theorem reportOf_append (path : String) (ps qs : List Place) :
    reportOf path (ps ++ qs) = reportOf path ps ++ reportOf path qs := by
  simp only [reportOf, visited, List.filter_append, List.map_append, List.length_append]
  rfl

/-- Behind an open step the places are visited that are so from there, and behind another one
none. -/
theorem visited_startingAt (e : Edge) (ps : List Place) :
    visited (Place.startingAt e ps) =
      ⟨[], e⟩ :: if isOpen e then (visited ps).map (Place.under e) else [] := by
  have hunder : (fun p : Place => p.above.all isOpen) ∘ Place.under e =
      fun p => isOpen e && p.above.all isOpen := rfl
  unfold Place.startingAt visited
  rw [List.filter_cons_of_pos rfl, List.filter_map, hunder]
  cases isOpen e with
  | true => rfl
  | false => exact congrArg (fun qs => _ :: qs.map (Place.under e)) (List.filter_false ps)

theorem reportOf_startingAt_of_isUnusable {e : Edge} (h : isUnusable e = true) (path : String)
    (ps : List Place) : reportOf path (Place.startingAt e ps) = ⟨[pathBehind path e], 0⟩ := by
  rw [reportOf, visited_startingAt, isOpen_of_isUnusable h]
  simp [h, isRepairable_of_isUnusable h, pathFrom]

theorem reportOf_startingAt_of_isRepairable {e : Edge} (hu : isUnusable e = false)
    (h : isRepairable e = true) (path : String) (ps : List Place) :
    reportOf path (Place.startingAt e ps) = ⟨[], 1⟩ := by
  rw [reportOf, visited_startingAt, isOpen_of_isRepairable h]
  simp [h, hu]

theorem reportOf_startingAt_of_isOpen {e : Edge} (hu : isUnusable e = false)
    (hr : isRepairable e = false) (path : String) (ps : List Place) :
    reportOf path (Place.startingAt e ps) = reportOf (pathBehind path e) ps := by
  rw [reportOf, visited_startingAt, isOpen_of_not hu hr, if_pos rfl,
    List.filter_cons_of_neg (by simp [hu]), List.filter_cons_of_neg (by simp [hr]),
    List.filter_map, List.filter_map, List.map_map, List.length_map]
  rfl

/-! ## Trees at which nothing stops -/

/-- Whether sanitation stops at none of the places. -/
def AllOpen (ps : List Place) : Prop :=
  ∀ p ∈ visited ps, isOpen p.last = true

theorem allOpen_startingAt_append {e : Edge} {ps qs : List Place} :
    AllOpen (Place.startingAt e ps ++ qs) ↔ isOpen e = true ∧ AllOpen ps ∧ AllOpen qs := by
  have happend : visited (Place.startingAt e ps ++ qs) =
      visited (Place.startingAt e ps) ++ visited qs := List.filter_append ..
  unfold AllOpen
  rw [happend, visited_startingAt, List.forall_mem_append, List.forall_mem_cons, and_assoc]
  refine and_congr_right fun he => and_congr_left fun _ => ?_
  rw [if_pos he, List.forall_mem_map]
  exact Iff.rfl

theorem allOpen_iff {t : Value} : AllOpen t.places ↔ marked t = [] ∧ repaired t = [] := by
  unfold AllOpen marked repaired isOpen
  rw [List.filter_eq_nil_iff, List.filter_eq_nil_iff, ← forall₂_and]
  simp

end QueryWarden.Sanitation
