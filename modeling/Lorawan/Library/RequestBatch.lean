import Mathlib.Data.List.Perm.Subperm
import Mathlib.Logic.Function.Basic

/-! # Batches of requests

A service answers each request with a code. It accepts the request with the code 0, and
the request takes effect; any other code refuses it, and nothing happens. A batch issues
every request whatever the answers were, and merges the codes bit by bit. -/

namespace Lorawan

structure Service {State : Type u} {Request : Type v} (effect : State → Request → State)
    (w : Nat) where
  serve : State → Request → BitVec w × State
  accepts_or_refuses : ∀ state request,
    (serve state request).1 = 0#w ∧ (serve state request).2 = effect state request ∨
      (serve state request).1 ≠ 0#w ∧ (serve state request).2 = state

namespace Service

variable {State : Type u} {Request : Type v} {effect : State → Request → State} {w : Nat}

/-- One request of a batch; the codes are merged so far. -/
def issue (service : Service effect w) (progress : BitVec w × State)
    (request : Request) : BitVec w × State :=
  let answer := service.serve progress.2 request
  (progress.1 ||| answer.1, answer.2)

/-- The requests of a batch that the service accepts. -/
def accepted (service : Service effect w) : State → List Request → List Request
  | _, [] => []
  | state, request :: requests =>
      let answer := service.serve state request
      if answer.1 = 0#w then
        request :: service.accepted answer.2 requests
      else
        service.accepted answer.2 requests

theorem serve_snd_of_accepted (service : Service effect w) {state : State}
    {request : Request} (accepts : (service.serve state request).1 = 0#w) :
    (service.serve state request).2 = effect state request := by
  rcases service.accepts_or_refuses state request with ⟨_, same⟩ | ⟨refuses, _⟩
  · exact same
  · exact absurd accepts refuses

theorem serve_snd_of_refused (service : Service effect w) {state : State}
    {request : Request} (refuses : (service.serve state request).1 ≠ 0#w) :
    (service.serve state request).2 = state := by
  rcases service.accepts_or_refuses state request with ⟨accepts, _⟩ | ⟨_, same⟩
  · exact absurd accepts refuses
  · exact same

theorem accepted_sublist (service : Service effect w) (state : State)
    (requests : List Request) :
    (service.accepted state requests).Sublist requests := by
  induction requests generalizing state with
  | nil => exact List.Sublist.refl []
  | cons request requests induction =>
      simp only [accepted]
      split
      · exact (induction _).cons_cons request
      · exact (induction _).cons request

/-- The batch does to the state what the accepted requests do. -/
theorem foldl_issue_snd (service : Service effect w) (code : BitVec w)
    (state : State) (requests : List Request) :
    (requests.foldl service.issue (code, state)).2 =
      (service.accepted state requests).foldl effect state := by
  induction requests generalizing code state with
  | nil => rfl
  | cons request requests induction =>
      rw [List.foldl_cons, issue, induction]
      simp only [accepted]
      split
      · next accepts =>
        rw [service.serve_snd_of_accepted accepts, List.foldl_cons]
      · next refuses =>
        rw [service.serve_snd_of_refused refuses]

/-- The merged code is 0 exactly when no request was refused: no nonzero code can be
hidden by the others. -/
theorem foldl_issue_fst_eq_zero (service : Service effect w) (code : BitVec w)
    (state : State) (requests : List Request) :
    (requests.foldl service.issue (code, state)).1 = 0#w ↔
      code = 0#w ∧ service.accepted state requests = requests := by
  induction requests generalizing code state with
  | nil => simp [accepted]
  | cons request requests induction =>
      rw [List.foldl_cons, issue, induction, BitVec.or_eq_zero_iff]
      simp only [accepted]
      split
      · next accepts => simp [accepts]
      · next refuses =>
        -- What was accepted of the rest is too short to be the whole batch.
        have short : service.accepted (service.serve state request).2 requests ≠
            request :: requests := by
          intro whole
          have bound := (service.accepted_sublist (service.serve state request).2
            requests).length_le
          rw [whole, List.length_cons] at bound
          omega
        simp [refuses, short]

/-- The service whose answer to a request does not depend on its state. -/
def ofAnswers (effect : State → Request → State) (answers : Request → BitVec w) :
    Service effect w where
  serve state request :=
    (answers request, if answers request = 0#w then effect state request else state)
  accepts_or_refuses := by
    intro state request
    by_cases accepts : answers request = 0#w
    · exact .inl ⟨accepts, if_pos accepts⟩
    · exact .inr ⟨accepts, if_neg accepts⟩

@[simp] theorem serve_ofAnswers_fst (answers : Request → BitVec w) (state : State)
    (request : Request) :
    ((ofAnswers effect answers).serve state request).1 = answers request :=
  rfl

/-- Any pattern of answers is the pattern of some service. -/
theorem accepted_ofAnswers (answers : Request → BitVec w) (state : State)
    (requests : List Request) :
    (ofAnswers effect answers).accepted state requests =
      requests.filter fun request => answers request = 0#w := by
  induction requests generalizing state with
  | nil => rfl
  | cons request requests induction =>
      rw [accepted, induction, serve_ofAnswers_fst]
      by_cases accepts : answers request = 0#w
      · rw [if_pos accepts, List.filter_cons_of_pos (by simpa using accepts)]
      · rw [if_neg accepts, List.filter_cons_of_neg (by simpa using accepts)]

end Service

/-! ## Requests that set parameters -/

section Parameters

variable {Key : Type u} {Value : Key → Type v}

/-- When every key is asked for once, a part of a batch that has all the keys is the whole
batch. -/
theorem eq_iff_of_sublist {part whole : List (Sigma Value)} (sub : part.Sublist whole)
    (distinct : (whole.map Sigma.fst).Nodup) :
    part = whole ↔ ∀ key ∈ whole.map Sigma.fst, key ∈ part.map Sigma.fst := by
  constructor
  · intro same key member
    rw [same]
    exact member
  · intro covered
    have bound := (distinct.subperm covered).length_le
    rw [List.length_map, List.length_map] at bound
    exact sub.eq_of_length_le bound

variable [DecidableEq Key]

/-- A parameter is set when one of the requests names it, and keeps its value otherwise. -/
theorem foldl_update_apply (wanted values : (key : Key) → Value key)
    (requests : List (Sigma Value)) (agree : ∀ request ∈ requests, request.2 = wanted request.1)
    (key : Key) :
    requests.foldl (fun values request => Function.update values request.1 request.2) values
        key =
      if key ∈ requests.map Sigma.fst then wanted key else values key := by
  induction requests generalizing values with
  | nil => rfl
  | cons request requests induction =>
      rw [List.foldl_cons, induction _ fun other member =>
        agree other (List.mem_cons_of_mem request member)]
      by_cases later : key ∈ requests.map Sigma.fst
      · have named : key ∈ (request :: requests).map Sigma.fst :=
          List.mem_cons_of_mem request.1 later
        rw [if_pos later, if_pos named]
      · by_cases same : key = request.1
        · subst same
          have named : request.1 ∈ (request :: requests).map Sigma.fst := List.mem_cons_self
          rw [if_neg later, if_pos named, Function.update_self]
          exact agree request List.mem_cons_self
        · have unnamed : key ∉ (request :: requests).map Sigma.fst := by
            simp only [List.map_cons, List.mem_cons, not_or]
            exact ⟨same, later⟩
          rw [if_neg later, if_neg unnamed, Function.update_of_ne same]

end Parameters

end Lorawan
