import QueryWarden.Proofs.Query.DenyList
import QueryWarden.Proofs.Service.Conditions
import QueryWarden.Proofs.Traced

/-!
# The keys of a query

The keys of a query are those of its conditions, at every depth, and those of its projection and its
sort.

1. The check against the deny list passes a query exactly when none of its keys is blocked:
   `QuerySpec.check_eq_ok_iff`.
2. Fuzzy matching adds the keys of pattern clauses and no others: `QuerySpec.forall_keys_ready`.
3. Sanitation adds no key: `QuerySpec.keys_sanitized_subset`.
-/

namespace QueryWarden

/-- Whether a key is a blocked operator.  Both are compared without the blank characters around them
and in lower case, and blank operators count for nothing. -/
def Settings.Blocks (s : Settings) (k : String) : Prop :=
  ∃ op ∈ s.blockedOperators, Text.isBlankText op = false ∧
    Text.lower (Text.strip op) = Text.lower (Text.strip k)

instance (s : Settings) (k : String) : Decidable (s.Blocks k) :=
  inferInstanceAs (Decidable (∃ op ∈ s.blockedOperators, _ ∧ _))

theorem Settings.denies_denyList {s : Settings} {k : String} :
    s.denyList.denies k = true ↔ s.Blocks k :=
  DenyList.denies_ofNames

theorem Settings.denies_denyList_eq_false {s : Settings} {k : String} :
    s.denyList.denies k = false ↔ ¬ s.Blocks k := by
  rw [← denies_denyList, Bool.not_eq_true]

/-- The check passes a tree exactly when none of its keys is blocked. -/
theorem Settings.check_denyList_eq_ok_iff {s : Settings} {v : Value} (h : v.isTupleFree = true) :
    s.denyList.check v = .ok () ↔ ∀ k ∈ v.allKeys, ¬ s.Blocks k := by
  rw [DenyList.check_eq_ok_iff _ h]
  exact forall₂_congr fun k _ => denies_denyList_eq_false

namespace QuerySpec

/-- The projection and the sort of a find. -/
def arrangement : QuerySpec → List Value
  | .find s => [partValue s.projection, partValue s.sort]
  | .aggregate _ => []

/-- The keys of the conditions, of the projection and of the sort. -/
def keys (q : QuerySpec) : List String :=
  q.conditions.allKeys ++ Value.itemKeys q.arrangement

def isTupleFree (q : QuerySpec) : Prop :=
  q.conditions.isTupleFree = true ∧ ∀ v ∈ q.arrangement, v.isTupleFree = true

/-! ## The check -/

theorem check_eq_ok {d : DenyList} {q : QuerySpec} :
    q.check d = .ok () ↔
      d.check q.conditions = .ok () ∧ ∀ v ∈ q.arrangement, d.check v = .ok () := by
  cases q with
  | find s =>
    simp only [check, bind_eq_ok, arrangement, List.forall_mem_cons]
    constructor
    · rintro ⟨⟨⟩, hf, ⟨⟩, hp, hs⟩
      exact ⟨hf, hp, hs, List.forall_mem_nil _⟩
    · rintro ⟨hf, hp, hs, -⟩
      exact ⟨(), hf, (), hp, hs⟩
  | aggregate s => exact ⟨fun h => ⟨h, List.forall_mem_nil _⟩, fun h => h.1⟩

theorem check_of_forall {s : Settings} {q : QuerySpec} (h : ∀ k ∈ q.keys, ¬ s.Blocks k) :
    q.check s.denyList = .ok () := by
  have hkeys : ∀ k ∈ q.conditions.allKeys ++ Value.itemKeys q.arrangement,
      s.denyList.denies k = false :=
    fun k hk => Settings.denies_denyList_eq_false.mpr (h k hk)
  rw [List.forall_mem_append] at hkeys
  refine check_eq_ok.mpr ⟨DenyList.check_of_forall _ hkeys.1, fun v hv => ?_⟩
  exact DenyList.check_of_forall _ fun k hk => hkeys.2 k (Value.allKeys_subset_itemKeys hv hk)

theorem check_eq_ok_iff {s : Settings} {q : QuerySpec} (h : q.isTupleFree) :
    q.check s.denyList = .ok () ↔ ∀ k ∈ q.keys, ¬ s.Blocks k := by
  refine ⟨fun hc k hk => ?_, check_of_forall⟩
  obtain ⟨hconditions, harrangement⟩ := check_eq_ok.mp hc
  rcases List.mem_append.mp hk with hk | hk
  · exact (Settings.check_denyList_eq_ok_iff h.1).mp hconditions k hk
  · obtain ⟨v, hv, hkv⟩ := Value.mem_itemKeys.mp hk
    exact (Settings.check_denyList_eq_ok_iff (h.2 v hv)).mp (harrangement v hv) k hkv

theorem check_eq_ok_or (d : DenyList) (q : QuerySpec) :
    q.check d = .ok () ∨ ∃ k, q.check d = .error (.blockedOperator (Text.strip k)) := by
  cases q with
  | find s =>
    rw [check]
    rcases d.check_eq_ok_or (.map s.filter) with hf | ⟨k, hf⟩
    · rcases d.check_eq_ok_or (partValue s.projection) with hp | ⟨k, hp⟩
      · rw [hf, hp]
        exact d.check_eq_ok_or (partValue s.sort)
      · rw [hf, hp]
        exact .inr ⟨k, rfl⟩
    · rw [hf]
      exact .inr ⟨k, rfl⟩
  | aggregate s => exact d.check_eq_ok_or (stagesValue s.stages)

/-! ## Fuzzy matching and sanitation -/

theorem forall_allKeys_stagesValue {P : String → Prop} {ss : List Fields} :
    (∀ k ∈ (stagesValue ss).allKeys, P k) ↔ ∀ stage ∈ ss, ∀ k ∈ Value.entryKeys stage, P k := by
  unfold stagesValue
  rw [Value.allKeys_list]
  constructor
  · intro h stage hs k hk
    exact h k (Value.mem_itemKeys.mpr ⟨.map stage, List.mem_map_of_mem hs, by rwa [Value.allKeys_map]⟩)
  · intro h k hk
    obtain ⟨v, hv, hk⟩ := Value.mem_itemKeys.mp hk
    obtain ⟨stage, hs, rfl⟩ := List.mem_map.mp hv
    exact h stage hs k (by rwa [Value.allKeys_map] at hk)

theorem forall_allKeys_conditions_fuzzify {P : String → Prop} (hp : P "$regex" ∧ P "$options")
    {q : QuerySpec} (h : ∀ k ∈ q.conditions.allKeys, P k) :
    ∀ k ∈ q.fuzzify.conditions.allKeys, P k := by
  cases q with
  | find s =>
    rw [conditions, Value.allKeys_map] at h
    rw [fuzzify, conditions, Value.allKeys_map]
    exact Fuzzy.forall_entryKeys_fuzzifyEntries hp s.filter h
  | aggregate s =>
    refine forall_allKeys_stagesValue.mpr (List.forall_mem_map.mpr fun stage hs => ?_)
    exact Fuzzy.forall_entryKeys_fuzzifyStage hp (forall_allKeys_stagesValue.mp h stage hs)

theorem arrangement_fuzzify (q : QuerySpec) : q.fuzzify.arrangement = q.arrangement := by
  cases q <;> rfl

theorem forall_keys_ready {P : String → Prop} (hp : P "$regex" ∧ P "$options") {q : QuerySpec}
    (fuzzy : Bool) (h : ∀ k ∈ q.keys, P k) : ∀ k ∈ (q.ready fuzzy).keys, P k := by
  unfold ready
  split_ifs
  · rw [keys, List.forall_mem_append] at h ⊢
    rw [arrangement_fuzzify]
    exact ⟨forall_allKeys_conditions_fuzzify hp h.1, h.2⟩
  · exact h

theorem arrangement_sanitized (q : QuerySpec) : q.sanitized.1.arrangement = q.arrangement := by
  cases q <;> rfl

theorem keys_sanitized_subset (q : QuerySpec) : q.sanitized.1.keys ⊆ q.keys := by
  unfold keys
  rw [conditions_sanitized, arrangement_sanitized, sanitized_snd]
  exact Value.append_subset_append (Sanitation.allKeys_clean_subset _ _) (List.Subset.refl _)

end QuerySpec

end QueryWarden
