import Mathlib.Data.List.Forall2
import QueryWarden.Proofs.Query.Shape
import QueryWarden.Proofs.Service.Run

/-!
# The shapes of what is executed

A call fits its query when the filter or the stages that it passes are mappings with the keys of
those of the query, and so is the projection (`Execution.Fits`).

Decoding tries its tags on these mappings as on any other, so one that holds a tag that converts
becomes a native value or a text (`ExtendedJson.hasKeys_decode_iff`).  This is the only way in which
a call does not fit (`Execution.fits_callOf_iff`, `Service.run_passes_fitting_call_iff`).
-/

namespace QueryWarden

/-- Whether a value is a mapping with the given keys, in their order. -/
def Value.HasKeys (v : Value) (ks : List String) : Prop :=
  ∃ fs : Fields, v = .map fs ∧ fs.keys = ks

namespace ExtendedJson

/-- Whether the first tag of a mapping that has a payload converts. -/
def converts (fs : Fields) : Bool :=
  (firstTag? fs).join.isSome

/-- Decoding keeps a mapping with its keys exactly when none of its tags converts. -/
theorem hasKeys_decode_iff {fs : Fields} :
    (decode (.map fs)).HasKeys fs.keys ↔ converts fs = false := by
  unfold converts
  cases h : firstTag? fs with
  | none =>
    rw [decode_map_of_no_tag h]
    exact iff_of_true ⟨_, rfl, keys_decodeEntries fs⟩ rfl
  | some x =>
    cases x with
    | none =>
      rw [decode_map_of_not_converts h]
      exact iff_of_true ⟨_, rfl, rfl⟩ rfl
    | some v =>
      have hn := isNativeOrText_of_firstTag? h
      rw [decode_map_of_converts h]
      refine iff_of_false ?_ Bool.noConfusion
      rintro ⟨gs, rfl, -⟩
      exact Bool.noConfusion hn

end ExtendedJson

namespace QuerySpec

/-- The mappings that are decoded as a whole: the filter and a projection that is not empty, or the
stages. -/
def roots : QuerySpec → List Fields
  | .find s => s.filter :: (s.projection.bind Shape.nonempty?).toList
  | .aggregate s => s.stages

end QuerySpec

namespace Execution

variable {policy : LimitPolicy} {ignoreCase : Bool}

/-- Whether a call passes the mappings of a query: its filter, and a projection only if there is one
that is not empty; or its stages, with the limit at their end. -/
def Fits (policy : LimitPolicy) : QuerySpec → Call → Prop
  | .find s, .find filter options =>
    filter.HasKeys s.filter.keys ∧
      ∀ v, options.projection = some v →
        ∃ fs, s.projection = some fs ∧ fs ≠ [] ∧ v.HasKeys fs.keys
  | .aggregate s, .aggregate stages =>
    ∃ front, stages = .list (front ++ [limitStage (policy.clamp (.int s.limit.value))]) ∧
      List.Forall₂ (fun v stage => v.HasKeys (Fields.keys stage)) front s.stages
  | _, _ => False

theorem fits_projection_iff (p : Option Fields) :
    (∀ v, ((p.bind Shape.nonempty?).map fun fs => ExtendedJson.decode (.map fs)) = some v →
        ∃ fs, p = some fs ∧ fs ≠ [] ∧ v.HasKeys fs.keys) ↔
      ∀ fs ∈ (p.bind Shape.nonempty?).toList, ExtendedJson.converts fs = false := by
  cases h : p.bind Shape.nonempty? with
  | none => simp
  | some gs =>
    obtain ⟨fs, hfs, hgs⟩ := Option.bind_eq_some_iff.mp h
    obtain ⟨hne, rfl⟩ := Shape.nonempty?_eq_some.mp hgs
    rw [Option.toList_some, List.forall_mem_singleton, ← ExtendedJson.hasKeys_decode_iff]
    constructor
    · intro hv
      obtain ⟨ds, hds, -, hkeys⟩ := hv _ rfl
      obtain rfl := Option.some.inj (hfs.symm.trans hds)
      exact hkeys
    · rintro hkeys v hv
      rw [← Option.some.inj hv]
      exact ⟨fs, hfs, hne, hkeys⟩

/-- The call that executes a query fits it exactly when no tag of its roots converts. -/
theorem fits_callOf_iff {q : QuerySpec} :
    Fits policy q (callOf policy ignoreCase q) ↔
      ∀ fs ∈ q.roots, ExtendedJson.converts fs = false := by
  cases q with
  | find s =>
    rw [QuerySpec.roots, List.forall_mem_cons, ← ExtendedJson.hasKeys_decode_iff,
      ← fits_projection_iff]
    rfl
  | aggregate s =>
    rw [callOf_aggregate, QuerySpec.roots]
    have hstages : (∀ fs ∈ s.stages, ExtendedJson.converts fs = false) ↔
        List.Forall₂ (fun v stage => v.HasKeys (Fields.keys stage))
          (s.stages.map fun stage => ExtendedJson.decode (.map stage)) s.stages := by
      rw [List.forall₂_map_left_iff, List.forall₂_same]
      exact forall₂_congr fun _ _ => ExtendedJson.hasKeys_decode_iff.symm
    rw [hstages]
    constructor
    · rintro ⟨front, hfront, hkeys⟩
      rw [(List.append_inj' (Value.list.inj hfront) rfl).1]
      exact hkeys
    · intro hkeys
      exact ⟨_, rfl, hkeys⟩

end Execution

namespace Service

/-- **What the database gets.**  A call that executes a query fits it, with a mapping for the
filter, for a projection and for each stage and with their keys, exactly when none of these mappings
holds a tag of extended JSON whose payload converts. -/
theorem run_passes_fitting_call_iff (s : Service) (r : RunRequest) (call : Call)
    (h : call ∈ (s.run r).calls) (hx : call.isExecution = true) :
    ∃ spec, s.specOfRequest r = .ok spec ∧
      (Execution.Fits s.settings.limits spec call ↔
        ∀ fs ∈ spec.roots, ExtendedJson.converts fs = false) := by
  obtain ⟨spec, hspec, rfl⟩ := exists_spec_of_mem_calls_run h hx
  exact ⟨spec, hspec, Execution.fits_callOf_iff⟩

/-- A find with a projection passes both as they are. -/
theorem run_passes_fitting_call_iff_bare :
    let r : RunRequest :=
      { collection := some "users"
        query := .map [("filter", .map [("name", .string "ada")]),
          ("projection", .map [("name", .int 1)])] }
    ∃ call ∈ ((bare "").run r).calls, call.isExecution = true ∧
      ∃ spec, (bare "").specOfRequest r = .ok spec ∧
        Execution.Fits (bare "").settings.limits spec call := by
  intro r
  have hspec : (bare "").specOfRequest r =
      .ok (.find ⟨[("name", .string "ada")], some [("name", .int 1)], none, .ofInt 100⟩) := by
    decide +kernel
  have hcall : ∃ call ∈ ((bare "").run r).calls, call.isExecution = true := by
    decide +kernel
  obtain ⟨call, hmem, hx⟩ := hcall
  obtain ⟨spec, hs, hfits⟩ := run_passes_fitting_call_iff (bare "") r call hmem hx
  refine ⟨call, hmem, hx, spec, hs, hfits.mpr ?_⟩
  rw [← Except.ok.inj (hspec.symm.trans hs)]
  decide +kernel

/-- A filter that is the literal of an id reaches the database as an id. -/
theorem run_passes_id_as_filter :
    let r : RunRequest :=
      { collection := some "users"
        query := .map [("$oid", .string "5f1d7f3b9c1e4a2b3c4d5e6f")] }
    (bare "").specOfRequest r =
        .ok (.find ⟨[("$oid", .string "5f1d7f3b9c1e4a2b3c4d5e6f")], none, none, .ofInt 100⟩) ∧
      ∃ call ∈ ((bare "").run r).calls,
        call.isExecution = true ∧ call.conditions.isMap = false := by
  decide +kernel

end Service

end QueryWarden
