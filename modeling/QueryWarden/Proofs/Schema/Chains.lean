import Mathlib.Data.List.Basic
import QueryWarden.Value.Basic

/-!
# Chains of keys

A chain of keys leads down a document: its first key is one of the document, and each next one belongs
to a mapping that the value of the key before embeds, as this value itself or as an item of a list
(`IsChain`).  `entryChains` lists the chains of a mapping in the order of a walk that goes down before
it goes on.

1. The list has the chains and nothing else (`mem_entryChains`).
2. What a chain starts with stands before the chain (`prefixesFirst_entryChains`).
-/

namespace QueryWarden.Schema

/-- The mappings that a value embeds: itself, or those among the items of a list. -/
def embedded : Value → List Fields
  | .map fs => [fs]
  | .list vs => vs.filterMap (·.fields?)
  | _ => []

/-- Whether a list of keys is a chain that leads down a mapping. -/
inductive IsChain : Fields → List String → Prop
  | single {fs : Fields} {e : String × Value} : e ∈ fs → IsChain fs [e.1]
  | cons {fs gs : Fields} {e : String × Value} {ks : List String} : e ∈ fs → gs ∈ embedded e.2 →
      IsChain gs ks → IsChain fs (e.1 :: ks)

mutual

/-- The chains of the mappings that a value embeds. -/
def chainsBelow : Value → List (List String)
  | .map es => entryChains es
  | .list vs => itemChains vs
  | _ => []

/-- The chains of entries, a key before the chains that go on below it. -/
def entryChains : List (String × Value) → List (List String)
  | [] => []
  | (k, v) :: es => [k] :: (chainsBelow v).map (k :: ·) ++ entryChains es

def itemChains : List Value → List (List String)
  | [] => []
  | v :: vs =>
    (match v with
      | .map es => entryChains es
      | _ => []) ++ itemChains vs

end

def documentChains : Value → List (List String)
  | .map es => entryChains es
  | _ => []

theorem itemChains_cons (v : Value) (vs : List Value) :
    itemChains (v :: vs) = documentChains v ++ itemChains vs := by
  cases v <;> rfl

/-! ## All chains -/

theorem not_isChain_nil {ks : List String} : ¬ IsChain [] ks := by
  intro h
  cases h with
  | single he => exact List.not_mem_nil he
  | cons he => exact List.not_mem_nil he

theorem isChain_cons {k : String} {v : Value} {es : List (String × Value)} {ks : List String} :
    IsChain ((k, v) :: es) ks ↔
      ks = [k] ∨ (∃ ls, (∃ gs ∈ embedded v, IsChain gs ls) ∧ k :: ls = ks) ∨ IsChain es ks := by
  constructor
  · intro h
    cases h with
    | single he =>
      rcases List.mem_cons.mp he with rfl | he
      · exact .inl rfl
      · exact .inr (.inr (.single he))
    | cons he hgs hls =>
      rcases List.mem_cons.mp he with rfl | he
      · exact .inr (.inl ⟨_, ⟨_, hgs, hls⟩, rfl⟩)
      · exact .inr (.inr (.cons he hgs hls))
  · rintro (rfl | ⟨ls, ⟨gs, hgs, hls⟩, rfl⟩ | h)
    · exact .single (List.mem_cons_self (a := (k, v)))
    · exact .cons (List.mem_cons_self (a := (k, v))) hgs hls
    · cases h with
      | single he => exact .single (List.mem_cons_of_mem _ he)
      | cons he hgs hls => exact .cons (List.mem_cons_of_mem _ he) hgs hls

mutual

theorem mem_chainsBelow : (v : Value) → (ks : List String) →
    (ks ∈ chainsBelow v ↔ ∃ gs ∈ embedded v, IsChain gs ks)
  | .map es, ks => by
    rw [chainsBelow, mem_entryChains es ks]
    simp [embedded]
  | .list vs, ks => by
    rw [chainsBelow]
    exact mem_itemChains vs ks
  | .null, _ | .bool _, _ | .int _, _ | .float _, _ | .string _, _ | .tuple _, _ | .native _, _ => by
    simp [chainsBelow, embedded]

theorem mem_entryChains : (es : List (String × Value)) → (ks : List String) →
    (ks ∈ entryChains es ↔ IsChain es ks)
  | [], ks => by
    rw [entryChains]
    exact iff_of_false List.not_mem_nil not_isChain_nil
  | (k, v) :: es, ks => by
    rw [entryChains, isChain_cons, ← mem_entryChains es ks, List.cons_append, List.mem_cons,
      List.mem_append, List.mem_map]
    simp only [mem_chainsBelow v]

theorem mem_itemChains : (vs : List Value) → (ks : List String) →
    (ks ∈ itemChains vs ↔ ∃ gs ∈ vs.filterMap (·.fields?), IsChain gs ks)
  | [], ks => by simp [itemChains]
  | .map es :: vs, ks => by
    rw [itemChains_cons, List.mem_append, documentChains, mem_entryChains es ks,
      mem_itemChains vs ks, List.filterMap_cons_some (show (Value.map es).fields? = some es from rfl),
      List.exists_mem_cons_iff]
  | .null :: vs, ks | .bool _ :: vs, ks | .int _ :: vs, ks | .float _ :: vs, ks
  | .string _ :: vs, ks | .list _ :: vs, ks | .tuple _ :: vs, ks | .native _ :: vs, ks =>
    mem_itemChains vs ks

end

theorem mem_documentChains {doc : Value} {ks : List String} :
    ks ∈ documentChains doc ↔ ∃ fs, doc = .map fs ∧ IsChain fs ks := by
  cases doc with
  | map es => simp [documentChains, mem_entryChains]
  | _ => simp [documentChains]

/-! ## The order of the walk -/

/-- Whether what a chain starts with stands before the chain, for all chains of a list. -/
def PrefixesFirst (chains : List (List String)) : Prop :=
  ∀ i ks, chains[i]? = some ks → ∀ ls, ls <+: ks → ls ≠ [] → ls ≠ ks → ls ∈ chains.take i

theorem prefixesFirst_nil : PrefixesFirst [] := by
  intro i ks h
  simp at h

theorem PrefixesFirst.append {as bs : List (List String)} (ha : PrefixesFirst as)
    (hb : PrefixesFirst bs) : PrefixesFirst (as ++ bs) := by
  intro i ks h ls hls hne hproper
  rw [List.take_append]
  by_cases hi : i < as.length
  · rw [List.getElem?_append_left hi] at h
    exact List.mem_append_left _ (ha i ks h ls hls hne hproper)
  · rw [List.getElem?_append_right (Nat.not_lt.mp hi)] at h
    exact List.mem_append_right _ (hb _ ks h ls hls hne hproper)

/-- A key stands before the chains below it, which keep their order. -/
theorem PrefixesFirst.below {chains : List (List String)} (h : PrefixesFirst chains) (k : String) :
    PrefixesFirst ([k] :: chains.map (k :: ·)) := by
  intro i ks hks ls hls hne hproper
  obtain ⟨l, ls, rfl⟩ := List.exists_cons_of_ne_nil hne
  cases i with
  | zero =>
    obtain rfl := Option.some.inj hks
    obtain ⟨rfl, hnil⟩ := List.cons_prefix_cons.mp hls
    exact absurd (by rw [List.prefix_nil.mp hnil]) hproper
  | succ i =>
    rw [List.getElem?_cons_succ, List.getElem?_map] at hks
    obtain ⟨ms, hms, rfl⟩ := Option.map_eq_some_iff.mp hks
    obtain ⟨rfl, hbelow⟩ := List.cons_prefix_cons.mp hls
    rw [List.take_succ_cons, List.mem_cons, ← List.map_take]
    by_cases hnil : ls = []
    · exact .inl (by rw [hnil])
    · refine .inr (List.mem_map_of_mem (h i ms hms ls hbelow hnil ?_))
      rintro rfl
      exact hproper rfl

mutual

theorem prefixesFirst_chainsBelow : (v : Value) → PrefixesFirst (chainsBelow v)
  | .map es => by
    rw [chainsBelow]
    exact prefixesFirst_entryChains es
  | .list vs => by
    rw [chainsBelow]
    exact prefixesFirst_itemChains vs
  | .null | .bool _ | .int _ | .float _ | .string _ | .tuple _ | .native _ => prefixesFirst_nil

theorem prefixesFirst_entryChains : (es : List (String × Value)) → PrefixesFirst (entryChains es)
  | [] => prefixesFirst_nil
  | (k, v) :: es => by
    rw [entryChains]
    exact ((prefixesFirst_chainsBelow v).below k).append (prefixesFirst_entryChains es)

theorem prefixesFirst_itemChains : (vs : List Value) → PrefixesFirst (itemChains vs)
  | [] => prefixesFirst_nil
  | .map es :: vs => (prefixesFirst_entryChains es).append (prefixesFirst_itemChains vs)
  | .null :: vs | .bool _ :: vs | .int _ :: vs | .float _ :: vs | .string _ :: vs
  | .list _ :: vs | .tuple _ :: vs | .native _ :: vs => prefixesFirst_itemChains vs

end

theorem prefixesFirst_flatMap (docs : List Value) :
    PrefixesFirst (docs.flatMap documentChains) := by
  induction docs with
  | nil => exact prefixesFirst_nil
  | cons doc docs ih =>
    rw [List.flatMap_cons]
    refine PrefixesFirst.append ?_ ih
    cases doc with
    | map es => exact prefixesFirst_entryChains es
    | _ => exact prefixesFirst_nil

end QueryWarden.Schema
