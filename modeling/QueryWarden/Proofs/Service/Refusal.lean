import QueryWarden.Proofs.Query.Shape
import QueryWarden.Proofs.Service.Keys
import QueryWarden.Service.Basic
import QueryWarden.Service.Run

/-!
# Refused requests

A query that cannot be built is misshapen, and its author is told so (`misshapen_of_buildFind`,
`misshapen_of_buildAggregate`): its limit is never at fault, since it was moved between its bounds
before.  So a request without an executable query ends with a refusal, which is a failure about the
input, about a blocked operator, or about conditions that sanitation took away
(`isRefusal_of_specOfRequest`).  A reply without a query is a failure too, and never one about the
input of the client (`kind_of_specOfReply`).
-/

namespace QueryWarden

/-- Whether failures of the kind refuse a request for what is in it. -/
def FailureKind.isRefusal : FailureKind → Bool
  | .invalidInput | .dangerousOperator | .emptyAfterSanitization => true
  | _ => false

def Fault.isRefusal : Fault → Bool
  | .failure f => f.kind.isRefusal
  | _ => false

/-! ## Queries that cannot be built -/

namespace Shape

variable {author : Author} {v : Value} {f : Failure}

theorem misshapen_of_queryFields (h : queryFields author v = .error f) :
    ∃ shape, f = .misshapen author shape := by
  cases v with
  | map fs => simp [queryFields] at h
  | list vs => simp [queryFields] at h
  | _ => exact ⟨_, (Except.error.inj h).symm⟩

theorem misshapen_of_filterFields (h : filterFields author v = .error f) :
    ∃ shape, f = .misshapen author shape := by
  cases v with
  | map fs => simp [filterFields] at h
  | null => simp [filterFields] at h
  | _ => exact ⟨_, (Except.error.inj h).symm⟩

theorem misshapen_of_stagesFrom {i : Nat} {vs : List Value}
    (h : stagesFrom author i vs = .error f) : ∃ shape, f = .misshapen author shape := by
  fun_induction stagesFrom author i vs with
  | case1 => simp at h
  | case2 i e es vs ih => exact ih (map_eq_error.mp h)
  | case3 => exact ⟨_, (Except.error.inj h).symm⟩

theorem misshapen_of_stages (h : stages author v = .error f) :
    ∃ shape, f = .misshapen author shape := by
  cases v with
  | list vs => exact misshapen_of_stagesFrom h
  | _ => exact ⟨_, (Except.error.inj h).symm⟩

end Shape

section Build

variable {author : Author} {policy : LimitPolicy} {limit : Value} {x : Fault}

theorem FindSpec.build_ne_error {filter : Fields} {projection sort : Option Fields} {n : Int}
    (h : 1 ≤ n) : FindSpec.build filter projection sort n ≠ .error x := by
  unfold FindSpec.build
  rw [Positive.ofInt?_eq_some h]
  exact nofun

theorem AggregateSpec.build_ne_error {ss : List Fields} {n : Int} (h : 1 ≤ n) :
    AggregateSpec.build ss n ≠ .error x := by
  unfold AggregateSpec.build
  rw [Positive.ofInt?_eq_some h]
  exact nofun

theorem misshapen_of_buildFind (hp : 1 ≤ policy.greatest) {query : Value} {outer : Fields}
    (h : buildFind author policy query outer limit = .error x) :
    ∃ shape, x = .failure (.misshapen author shape) := by
  unfold buildFind at h
  split at h
  · rename_i f hf
    obtain ⟨shape, rfl⟩ := Shape.misshapen_of_queryFields hf
    exact ⟨shape, (Except.error.inj h).symm⟩
  · dsimp only at h
    split at h
    · rename_i f hf
      obtain ⟨shape, rfl⟩ := Shape.misshapen_of_filterFields hf
      exact ⟨shape, (Except.error.inj h).symm⟩
    · exact absurd h (FindSpec.build_ne_error (LimitPolicy.one_le_clamp hp _))

theorem misshapen_of_buildAggregate (hp : 1 ≤ policy.greatest) {pipeline : Value}
    (h : buildAggregate author policy pipeline limit = .error x) :
    ∃ shape, x = .failure (.misshapen author shape) := by
  unfold buildAggregate at h
  split at h
  · rename_i f hf
    obtain ⟨shape, rfl⟩ := Shape.misshapen_of_stages hf
    exact ⟨shape, (Except.error.inj h).symm⟩
  · exact absurd h (AggregateSpec.build_ne_error (LimitPolicy.one_le_clamp hp _))

end Build

/-! ## The kind of a failure at each step -/

namespace QuerySpec

variable {policy : LimitPolicy} {d : DenyList} {q : QuerySpec} {f : Failure} {x : Fault}

/-- A request without a query that can be built names none, or a misshapen one. -/
theorem kind_of_ofRunRequest (hp : 1 ≤ policy.greatest) {query pipeline limit : Value}
    (h : ofRunRequest policy query pipeline limit = .error x) :
    ∃ f, x = .failure f ∧ f.kind = .invalidInput := by
  unfold ofRunRequest at h
  split at h
  · exact ⟨_, (Except.error.inj h).symm, rfl⟩
  · obtain ⟨shape, rfl⟩ := misshapen_of_buildFind hp h
    exact ⟨_, rfl, rfl⟩
  · obtain ⟨shape, rfl⟩ := misshapen_of_buildAggregate hp h
    exact ⟨_, rfl, rfl⟩

/-- An output of the model without a query that can be built has none, or a misshapen one. -/
theorem kind_of_ofModelOutput (hp : 1 ≤ policy.greatest) {mode : String} {output : Fields}
    (h : ofModelOutput policy mode output = .error x) :
    ∃ f, x = .failure f ∧ f.kind = .invalidModelOutput := by
  unfold ofModelOutput at h
  dsimp only at h
  split_ifs at h
  · split at h
    · exact ⟨_, (Except.error.inj h).symm, rfl⟩
    · obtain ⟨shape, rfl⟩ := misshapen_of_buildAggregate hp h
      exact ⟨_, rfl, rfl⟩
  · split at h
    · exact ⟨_, (Except.error.inj h).symm, rfl⟩
    · obtain ⟨shape, rfl⟩ := misshapen_of_buildAggregate hp h
      exact ⟨_, rfl, rfl⟩
    · obtain ⟨shape, rfl⟩ := misshapen_of_buildFind hp h
      exact ⟨_, rfl, rfl⟩

theorem kind_of_check (h : q.check d = .error f) : f.kind = .dangerousOperator := by
  rcases check_eq_ok_or d q with hok | ⟨k, hk⟩
  · simp [hok] at h
  · rw [← Except.error.inj (hk.symm.trans h)]
    rfl

theorem kind_of_sanitize (h : q.sanitize = .error f) : f.kind = .emptyAfterSanitization := by
  rw [sanitize_eq] at h
  split_ifs at h
  rw [← Except.error.inj h]
  rfl

end QuerySpec

theorem DenyList.kind_of_check {d : DenyList} {v : Value} {f : Failure}
    (h : d.check v = .error f) : f.kind = .dangerousOperator := by
  rcases d.check_eq_ok_or v with hok | ⟨k, hk⟩
  · simp [hok] at h
  · rw [← Except.error.inj (hk.symm.trans h)]
    rfl

theorem Reply.kind_of_object {reply : Value} {f : Failure} (h : object reply = .error f) :
    f.kind = .invalidModelOutput := by
  unfold object at h
  split at h
  · split_ifs at h
    · rw [← Except.error.inj h]
      rfl
    · dsimp only at h
      split at h
      · simp at h
      · rw [← Except.error.inj h]
        rfl
  · rw [← Except.error.inj h]
    rfl

namespace Service

variable {s : Service} {x : Fault}

theorem isRefusal_of_specOfRequest {r : RunRequest} (h : s.specOfRequest r = .error x) :
    x.isRefusal = true := by
  unfold specOfRequest at h
  rcases bind_eq_error.mp h with h | ⟨q, -, h⟩
  · obtain ⟨f, rfl, hf⟩ := QuerySpec.kind_of_ofRunRequest s.settings.maxLimit.one_le h
    simp only [Fault.isRefusal, hf, FailureKind.isRefusal]
  rcases bind_eq_error.mp h with h | ⟨-, -, h⟩
  · obtain ⟨f, hf, rfl⟩ := mapError_eq_error.mp h
    simp only [Fault.isRefusal, QuerySpec.kind_of_check hf, FailureKind.isRefusal]
  · obtain ⟨f, hf, rfl⟩ := mapError_eq_error.mp h
    simp only [Fault.isRefusal, QuerySpec.kind_of_sanitize hf, FailureKind.isRefusal]

/-- A reply without a query is not blamed on the input of the client. -/
theorem kind_of_specOfReply {mode : String} {fields : List String} {reply : Value}
    (h : s.specOfReply mode fields reply = .error x) :
    ∃ f, x = .failure f ∧ f.kind ≠ .invalidInput := by
  unfold specOfReply at h
  rcases bind_eq_error.mp h with h | ⟨output, -, h⟩
  · obtain ⟨f, hf, rfl⟩ := mapError_eq_error.mp h
    exact ⟨f, rfl, by rw [Reply.kind_of_object hf]; exact nofun⟩
  rcases bind_eq_error.mp h with h | ⟨-, -, h⟩
  · obtain ⟨f, hf, rfl⟩ := mapError_eq_error.mp h
    exact ⟨f, rfl, by rw [DenyList.kind_of_check hf]; exact nofun⟩
  rcases bind_eq_error.mp h with h | ⟨q, -, h⟩
  · obtain ⟨f, rfl, hf⟩ := QuerySpec.kind_of_ofModelOutput s.settings.maxLimit.one_le h
    exact ⟨f, rfl, by rw [hf]; exact nofun⟩
  · obtain ⟨f, hf, rfl⟩ := mapError_eq_error.mp h
    exact ⟨f, rfl, by rw [QuerySpec.kind_of_sanitize hf]; exact nofun⟩

end Service

end QueryWarden
