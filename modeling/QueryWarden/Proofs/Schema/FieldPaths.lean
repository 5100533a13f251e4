import Mathlib.Data.List.Induction
import Mathlib.Data.List.Nodup
import QueryWarden.Proofs.Schema.Chains
import QueryWarden.Proofs.Schema.Sample

/-!
# Field paths are joined chains

The paths of sampled documents are their chains, each joined by points, listed without duplicates in
the order of the walk (`sampled_paths_are_chains`).  The chain of a document's own id has no path.

The walk knows the top level by an empty path.  Below an empty key it takes the top level for what it
is not: empty keys at the start of a chain are left out of its path, and an id behind them counts as
the document's own (`sampledPath?`).  All other chains have the path that joins their keys
(`sampledPath?_eq_iff`).
-/

namespace QueryWarden.Schema

/-! ## The path of a chain -/

/-- The keys of a chain, joined by points; chains of the id of a document have no path. -/
def chainPath? (ks : List String) : Option String :=
  if ks.head? = some "_id" then none else some (".".intercalate ks)

/-- The path that sampling has for a chain: empty keys at its start are left out. -/
def sampledPath? (ks : List String) : Option String :=
  chainPath? (ks.dropWhile (· = ""))

/-- Whether a chain goes on below an empty key of the document. -/
def LeavesUnnamed (ks : List String) : Prop :=
  ∃ k ls, ks = "" :: k :: ls

theorem chainPath?_eq_none {ks : List String} : chainPath? ks = none ↔ ks.head? = some "_id" := by
  unfold chainPath?
  by_cases h : ks.head? = some "_id"
  · simp [h]
  · simp [h]

theorem sampledPath?_cons_empty (ks : List String) : sampledPath? ("" :: ks) = sampledPath? ks := by
  unfold sampledPath?
  rw [List.dropWhile_cons_of_pos (by simp)]

theorem sampledPath?_cons_of_ne {k : String} (hk : k ≠ "") (ks : List String) :
    sampledPath? (k :: ks) = chainPath? (k :: ks) := by
  unfold sampledPath?
  rw [List.dropWhile_cons_of_neg (by simpa using hk)]

theorem length_intercalate_dropWhile_le (ks : List String) :
    (".".intercalate (ks.dropWhile (· = ""))).length ≤ (".".intercalate ks).length := by
  induction ks with
  | nil => exact Nat.le_refl _
  | cons k ks ih =>
    by_cases hk : k = ""
    · rw [List.dropWhile_cons_of_pos (by simpa using hk)]
      cases ks with
      | nil => exact Nat.zero_le _
      | cons l ls =>
        rw [String.intercalate_cons_cons (t := k), String.length_append]
        omega
    · have hkept : (k :: ks).dropWhile (· = "") = k :: ks :=
        List.dropWhile_cons_of_neg (by simpa using hk)
      exact Nat.le_of_eq (by rw [hkept])

/-- Sampling joins the keys of a chain unless the chain goes on below an empty key. -/
theorem sampledPath?_eq_iff (ks : List String) :
    sampledPath? ks = chainPath? ks ↔ ¬ LeavesUnnamed ks := by
  constructor
  · rintro h ⟨k, ls, rfl⟩
    have hjoin : chainPath? ("" :: k :: ls) = some ("." ++ ".".intercalate (k :: ls)) := by
      rw [chainPath?, if_neg (by simp), String.intercalate_cons_cons, String.empty_append]
    rw [sampledPath?_cons_empty, hjoin] at h
    unfold sampledPath? chainPath? at h
    split_ifs at h
    have hlength := congrArg String.length (Option.some.inj h)
    have hle := length_intercalate_dropWhile_le (k :: ls)
    have hpoint : ".".length = 1 := rfl
    rw [hlength, String.length_append] at hle
    omega
  · intro h
    cases ks with
    | nil => rfl
    | cons k ks =>
      by_cases hk : k = ""
      · cases ks with
        | nil =>
          rw [hk]
          rfl
        | cons l ls => exact absurd ⟨l, ls, by rw [hk]⟩ h
      · exact sampledPath?_cons_of_ne hk ks

theorem sampledPath?_of_prefix {ks ls : List String} (h : ls <+: ks)
    (hks : sampledPath? ks ≠ none) : sampledPath? ls ≠ none := by
  obtain ⟨rest, rfl⟩ := h
  intro hls
  refine hks ?_
  unfold sampledPath? at hls ⊢
  rw [chainPath?_eq_none] at hls ⊢
  rw [List.dropWhile_append]
  cases hd : ls.dropWhile (· = "") with
  | nil => simp [hd] at hls
  | cons d ds =>
    rw [hd] at hls
    exact hls

theorem chainPath?_of_prefix {ks ls : List String} (h : ls <+: ks) (hne : ls ≠ [])
    (hks : chainPath? ks ≠ none) : chainPath? ls ≠ none := by
  obtain ⟨rest, rfl⟩ := h
  intro hls
  refine hks ?_
  rw [chainPath?_eq_none] at hls ⊢
  rw [List.head?_append_of_ne_nil _ hne]
  exact hls

/-! ## Walking down a document -/

/-- The path of a chain that goes on from the path of a parent. -/
def pathFrom? (sep : String) : String → List String → Option String
  | parent, [] => some parent
  | parent, k :: ks =>
    if k = "_id" ∧ parent = "" then none else pathFrom? sep (joinPath sep parent k) ks

theorem pathFrom?_of_ne {sep parent : String} (h : parent ≠ "") (ks : List String) :
    pathFrom? sep parent ks = some (sep.intercalate (parent :: ks)) := by
  induction ks generalizing parent with
  | nil => simp [pathFrom?]
  | cons k ks ih =>
    have hne : parent ++ sep ++ k ≠ "" := by simp [h]
    rw [pathFrom?, if_neg (by simp [h]), joinPath, if_neg h, ih hne, String.intercalate_cons_cons,
      String.intercalate_cons_append]

/-- A walk from the top level drops empty keys until it meets another one. -/
theorem pathFrom?_empty (ks : List String) : pathFrom? "." "" ks = sampledPath? ks := by
  induction ks with
  | nil => rfl
  | cons k ks ih =>
    by_cases hk : k = ""
    · rw [hk, sampledPath?_cons_empty, pathFrom?, if_neg (by simp)]
      exact ih
    · rw [sampledPath?_cons_of_ne hk, pathFrom?, chainPath?]
      by_cases hid : k = "_id"
      · simp [hid]
      · rw [if_neg (by simp [hid]), if_neg (by simp [hid])]
        exact pathFrom?_of_ne hk ks

mutual

theorem pathsBelow_eq (sep : String) : (parent : String) → (v : Value) →
    pathsBelow sep parent v = (chainsBelow v).filterMap (pathFrom? sep parent)
  | parent, .map es => by
    rw [pathsBelow, chainsBelow]
    exact entryPaths_eq sep parent es
  | parent, .list vs => by
    rw [pathsBelow, chainsBelow]
    exact itemPaths_eq sep parent vs
  | _, .null | _, .bool _ | _, .int _ | _, .float _ | _, .string _ | _, .tuple _ | _, .native _ => by
    simp [pathsBelow, chainsBelow]

theorem entryPaths_eq (sep : String) : (parent : String) → (es : List (String × Value)) →
    entryPaths sep parent es = (entryChains es).filterMap (pathFrom? sep parent)
  | _, [] => by simp [entryPaths, entryChains]
  | parent, (k, v) :: es => by
    rw [entryPaths, entryChains, entryPaths_eq sep parent es, List.filterMap_append,
      List.filterMap_cons, List.filterMap_map]
    by_cases h : k = "_id" ∧ parent = ""
    · -- No chain that starts with the id has a path.
      have hnone : pathFrom? sep parent ∘ (k :: ·) = fun _ => none :=
        funext fun ks => if_pos h
      rw [if_pos (by simp [h]), hnone]
      simp [pathFrom?, h]
    · have hbelow : pathFrom? sep parent ∘ (k :: ·) = pathFrom? sep (joinPath sep parent k) :=
        funext fun ks => if_neg h
      rw [if_neg (by simpa using h), hbelow, pathsBelow_eq sep _ v]
      simp [pathFrom?, h]

theorem itemPaths_eq (sep : String) : (parent : String) → (vs : List Value) →
    itemPaths sep parent vs = (itemChains vs).filterMap (pathFrom? sep parent)
  | _, [] => by simp [itemPaths, itemChains]
  | parent, .map es :: vs => by
    rw [itemPaths, itemChains, List.filterMap_append, entryPaths_eq sep parent es,
      itemPaths_eq sep parent vs]
  | parent, .null :: vs | parent, .bool _ :: vs | parent, .int _ :: vs | parent, .float _ :: vs
  | parent, .string _ :: vs | parent, .list _ :: vs | parent, .tuple _ :: vs
  | parent, .native _ :: vs => itemPaths_eq sep parent vs

end

theorem documentPaths_eq (doc : Value) :
    documentPaths "." "" doc = (documentChains doc).filterMap sampledPath? := by
  cases doc with
  | map es =>
    rw [documentPaths, documentChains, entryPaths_eq]
    exact List.filterMap_congr fun ks _ => pathFrom?_empty ks
  | _ => rfl

/-! ## Distinct paths in the order of the walk -/

/-- The paths of chains without duplicates, each where it is met first. -/
def distinctPaths (path? : List String → Option String) (chains : List (List String)) :
    List String :=
  (chains.filterMap path?).eraseDups

theorem eraseDups_concat (ps : List String) (p : String) :
    (ps ++ [p]).eraseDups = if p ∈ ps then ps.eraseDups else ps.eraseDups ++ [p] := by
  rw [List.eraseDups_append, List.removeAll]
  by_cases h : p ∈ ps
  · simp [h]
  · simp [h, List.eraseDups_cons]

theorem addPaths_nil (ps : List String) : addPaths [] ps = ps.eraseDups := by
  induction ps using List.reverseRecOn with
  | nil => rfl
  | append_singleton ps p ih =>
    unfold addPaths at ih ⊢
    rw [List.foldl_append, ih, eraseDups_concat]
    simp [List.mem_eraseDups]

theorem nodup_eraseDups (ps : List String) : ps.eraseDups.Nodup := by
  induction ps using List.reverseRecOn with
  | nil => exact List.nodup_nil
  | append_singleton ps p ih =>
    rw [eraseDups_concat]
    split_ifs with h
    · exact ih
    · refine List.nodup_append.mpr ⟨ih, List.nodup_singleton p, ?_⟩
      rintro q hq r hr rfl
      rw [List.mem_singleton.mp hr] at hq
      exact h (List.mem_eraseDups.mp hq)

theorem fieldPaths_eq (docs : List Value) :
    fieldPaths docs = distinctPaths sampledPath? (docs.flatMap documentChains) := by
  unfold fieldPaths distinctPaths
  rw [addPaths_nil, List.filterMap_flatMap]
  exact congrArg _ (List.flatMap_congr fun doc _ => documentPaths_eq doc)

/-- Whether paths are those of chains: each of them once, where its first chain is met, and behind the
paths of all that this chain starts with. -/
structure ListsChains (path? : List String → Option String) (chains : List (List String))
    (paths : List String) : Prop where
  listed : paths = distinctPaths path? chains
  nodup : paths.Nodup
  behindPrefixes : ∀ i ks p, chains[i]? = some ks → path? ks = some p →
    p ∉ distinctPaths path? (chains.take i) →
      distinctPaths path? (chains.take i) ++ [p] <+: paths ∧
      ∀ ls, ls <+: ks → ls ≠ [] → ls ≠ ks →
        ∃ q ∈ distinctPaths path? (chains.take i), path? ls = some q

theorem listsChains_distinctPaths {path? : List String → Option String}
    {chains : List (List String)} (hchains : PrefixesFirst chains)
    (hpath : ∀ {ks ls}, ls <+: ks → ls ≠ [] → path? ks ≠ none → path? ls ≠ none) :
    ListsChains path? chains (distinctPaths path? chains) where
  listed := rfl
  nodup := nodup_eraseDups _
  behindPrefixes i ks p hks hp hnew := by
    constructor
    · obtain ⟨hi, hget⟩ := List.getElem?_eq_some_iff.mp hks
      have hsplit : chains = chains.take i ++ [ks] ++ chains.drop (i + 1) := by
        rw [← hget, List.take_append_getElem hi, List.take_append_drop]
      have hpaths : chains.filterMap path? =
          (chains.take i).filterMap path? ++ [p] ++ (chains.drop (i + 1)).filterMap path? := by
        conv_lhs => rw [hsplit]
        rw [List.filterMap_append, List.filterMap_append, List.filterMap_cons_some hp,
          List.filterMap_nil]
      have hnew' : p ∉ (chains.take i).filterMap path? := mt List.mem_eraseDups.mpr hnew
      unfold distinctPaths
      rw [hpaths, List.eraseDups_append, eraseDups_concat, if_neg hnew']
      exact List.prefix_append _ _
    · intro ls hls hne hproper
      obtain ⟨q, hq⟩ := Option.ne_none_iff_exists'.mp
        (hpath hls hne (by rw [hp]; exact Option.some_ne_none p))
      have hmem := hchains i ks hks ls hls hne hproper
      exact ⟨q, List.mem_eraseDups.mpr (List.mem_filterMap.mpr ⟨ls, hmem, hq⟩), hq⟩

/-! ## The paths of a sample -/

def sampleOf (docs : List Value) (cap : Int) : List Value :=
  docs.take (max 1 cap).toNat

theorem outcome_samplePaths (docs : List Value) (cap : Int) :
    (samplePaths { docs := docs } (.ofInt cap)).outcome =
      .ok (fieldPaths (sampleOf docs cap)) := by
  have hdocs : (sampleDocs { docs := docs } (.ofInt cap)).outcome = .ok (sampleOf docs cap) := by
    rw [outcome_sampleDocs, Collection.ends_of_none rfl]
    rfl
  simp only [samplePaths, Traced.mapOutcome, hdocs]

/-- **Sampled paths are chains of keys.**  The sampled paths of a collection are those of the chains that
lead down the first documents, each once, where the walk meets it first and behind the paths of what
its chain starts with.  The path of a chain joins its keys, and the chains of a document's own id have
none, exactly for the chains that do not go on below an empty key of the document; where there are no
others, the sampled paths are the joined chains. -/
theorem sampled_paths_are_chains (docs : List Value) (cap : Int) :
    let chains := (sampleOf docs cap).flatMap documentChains
    (∀ ks, ks ∈ chains ↔ ∃ fs, .map fs ∈ sampleOf docs cap ∧ IsChain fs ks) ∧
    (∀ ks, sampledPath? ks = chainPath? ks ↔ ¬ LeavesUnnamed ks) ∧
    ∃ paths, (samplePaths { docs := docs } (.ofInt cap)).outcome = .ok paths ∧
      ListsChains sampledPath? chains paths ∧
      ((∀ ks ∈ chains, ¬ LeavesUnnamed ks) → ListsChains chainPath? chains paths) := by
  intro chains
  have hfirst : PrefixesFirst chains := prefixesFirst_flatMap (sampleOf docs cap)
  refine ⟨fun ks => ?_, sampledPath?_eq_iff, _, outcome_samplePaths docs cap, ?_, fun h => ?_⟩
  · constructor
    · intro hks
      obtain ⟨doc, hdoc, hks⟩ := List.mem_flatMap.mp hks
      obtain ⟨fs, rfl, hchain⟩ := mem_documentChains.mp hks
      exact ⟨fs, hdoc, hchain⟩
    · rintro ⟨fs, hdoc, hchain⟩
      exact List.mem_flatMap.mpr ⟨_, hdoc, mem_documentChains.mpr ⟨fs, rfl, hchain⟩⟩
  · rw [fieldPaths_eq]
    exact listsChains_distinctPaths hfirst fun hls _ hks => sampledPath?_of_prefix hls hks
  · have hsame : distinctPaths sampledPath? chains = distinctPaths chainPath? chains :=
      congrArg _ (List.filterMap_congr fun ks hks => (sampledPath?_eq_iff ks).mpr (h ks hks))
    rw [fieldPaths_eq, hsame]
    exact listsChains_distinctPaths hfirst chainPath?_of_prefix

/-- The ids of a document and of a mapping in it, and a mapping in a list. -/
theorem sampled_paths_are_chains_of_users :
    let docs : List Value :=
      [.map [("_id", .int 7), ("Address", .map [("_id", .int 1), ("City", .string "Oslo")]),
        ("Tags", .list [.null, .map [("", .int 2)]])]]
    let chains := (sampleOf docs 50).flatMap documentChains
    (∀ ks ∈ chains, ¬ LeavesUnnamed ks) ∧
      ListsChains chainPath? chains
        ["Address", "Address._id", "Address.City", "Tags", "Tags."] := by
  intro docs chains
  obtain ⟨-, -, paths, hpaths, -, hlists⟩ := sampled_paths_are_chains docs 50
  have hchains : chains =
      [["_id"], ["Address"], ["Address", "_id"], ["Address", "City"], ["Tags"], ["Tags", ""]] := by
    decide +kernel
  have hnamed : ∀ ks ∈ chains, ¬ LeavesUnnamed ks := by
    rw [hchains]
    rintro ks hks ⟨k, ls, rfl⟩
    simp at hks
  have houtcome : (samplePaths { docs := docs } (.ofInt 50)).outcome =
      .ok ["Address", "Address._id", "Address.City", "Tags", "Tags."] := by
    decide +kernel
  obtain rfl := Except.ok.inj (hpaths.symm.trans houtcome)
  exact ⟨hnamed, hlists hnamed⟩

/-- An id below an empty key is taken for the document's own, and the empty key is left out of the
paths below it. -/
theorem sampled_paths_lose_unnamed :
    let doc : Value := .map [("", .map [("_id", .int 7), ("b", .int 1)])]
    (samplePaths { docs := [doc] } (.ofInt 50)).outcome = .ok ["", "b"] ∧
      distinctPaths chainPath? (documentChains doc) = ["", "._id", ".b"] := by
  decide +kernel

end QueryWarden.Schema
