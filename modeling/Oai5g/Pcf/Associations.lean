import Oai5g.Lib.Trace
import Oai5g.Smf.Generators
import Oai5g.Pcf.PolicyUpdate
import Oai5g.Pcf.Provisioning

/-!
# SM policy associations

* `createSmPolicyHandler`, `getSmPolicyHandler`, `deleteSmPolicyHandler`, beside `updateSmPolicyHandler`;
  `smPolicyStep`.
* `forId`: what an answered request means for the association of an id.
* **`associations_independent`**: up to 2^32 associations every request is answered; the ids that are given
  are all different, and an association is what the requests with its id have made it.
-/

namespace Oai5g.Pcf

open Smf (UintGenerator)

/-- `pcf_smpc` -/
structure SmPolicyControl where
  policyStorage : PolicyStorage
  associationIdGenerator : UintGenerator
  associations : Str → Option IndividualSmAssociation

/-- The `SmPolicyContextData` of a new association. -/
structure CreateContext where
  keys : PolicyContext
  attributes : SmPolicyContextData

/-- What comes to the PCF about SM policy associations. -/
inductive SmPolicyRequest
  | create (context : CreateContext)
  | get (id : Str)
  | update (id : Str) (update : SmPolicyUpdateContextData)
  | delete (id : Str)

/-- An answer: the status, with what is given back. -/
inductive SmPolicyAnswer
  | created (associationId decision : Str)
  | control (context : SmPolicyContextData) (policy : Str)
  | updated (status : StatusCode) (decision : Option Str) (problemDetails : Str)
  | deleted
  | refused (status : StatusCode) (problemDetails : Str)

section

variable (toJson : SmPolicyDecision → Str) (s : SmPolicyControl)

/-- `pcf_smpc::create_sm_policy_handler`. An association keeps the `policy_decision` part of what was found, so
it decides for every context; `none` is a `get_uid` that does not return. -/
def createSmPolicyHandler (context : CreateContext) : Option (SmPolicyControl × SmPolicyAnswer) :=
  match s.policyStorage.findPolicy context.keys with
  | none => some (s, .refused .contextDenied
      ("SM policy request from SUPI ".toList ++ context.keys.supi ++ ": No policies found".toList))
  | some chosenDecision =>
    (s.associationIdGenerator.getUid 32).map fun given =>
      let associationId := Numeral.dec given.2
      ({ s with
          associationIdGenerator := given.1
          associations := Function.update s.associations associationId
            (some ((s.associations associationId).getD ⟨context.attributes, toJson chosenDecision⟩)) },
        .created associationId (toJson chosenDecision))

/-- `pcf_smpc::delete_sm_policy_handler` -/
def deleteSmPolicyHandler (id : Str) : SmPolicyControl × SmPolicyAnswer :=
  match s.associations id with
  | none => (s, .refused .notFound
      ("Could not delete policy association: ID ".toList ++ id ++ " not found".toList))
  | some _ => ({ s with associations := Function.update s.associations id none }, .deleted)

/-- `pcf_smpc::get_sm_policy_handler` -/
def getSmPolicyHandler (id : Str) : SmPolicyAnswer :=
  match s.associations id with
  | none => .refused .notFound
      ("Could not retrieve policy association: ID ".toList ++ id ++ " not found".toList)
  | some association => .control association.context association.decision

/-- **One request.** -/
def smPolicyStep : SmPolicyRequest → Option (SmPolicyControl × List SmPolicyAnswer)
  | .create context => (createSmPolicyHandler toJson s context).map fun x => (x.1, [x.2])
  | .get id => some (s, [getSmPolicyHandler s id])
  | .update id update =>
    let x := updateSmPolicyHandler s.associations id update []
    some ({ s with associations := x.2.1 }, [.updated x.1 x.2.2.2 x.2.2.1])
  | .delete id => some ((deleteSmPolicyHandler s id).1, [(deleteSmPolicyHandler s id).2])

end

/-- The request asks for an association that there is a policy for. -/
def SmPolicyRequest.Creates (storage : PolicyStorage) : SmPolicyRequest → Bool
  | .create context => (storage.findPolicy context.keys).isSome
  | _ => false

/-! ## One association -/

/-- What an answered request means for the association of `id`. -/
def forId (id : Str) (association : Option IndividualSmAssociation)
    (exchange : SmPolicyRequest × SmPolicyAnswer) : Option IndividualSmAssociation :=
  match exchange with
  | (.create context, .created associationId decision) =>
    if associationId = id then some ⟨context.attributes, decision⟩ else association
  | (.update id' update, _) =>
    if id' = id then association.map fun a => { a with context := (redecide update a.context []).context }
    else association
  | (.delete id', _) => if id' = id then none else association
  | _ => association

/-- The id of a new association. -/
def SmPolicyAnswer.createdId : SmPolicyAnswer → Option Str
  | .created associationId _ => some associationId
  | _ => none

/-- The associations are under ids that were given. -/
def IdsGiven (s : SmPolicyControl) : Prop :=
  ∀ id, s.associations id ≠ none → ∃ uid ∈ s.associationIdGenerator.uidGenerated, id = Numeral.dec uid

section

variable {toJson : SmPolicyDecision → Str} {s s' : SmPolicyControl} {answer : SmPolicyAnswer}

theorem dec_injective {m n : ℕ} (h : Numeral.dec m = Numeral.dec n) : m = n := by
  rw [← Numeral.ofDec_dec m, h, Numeral.ofDec_dec]

theorem createSmPolicyHandler_spec {context : CreateContext} (hs : IdsGiven s)
    (h : createSmPolicyHandler toJson s context = some (s', answer)) :
    (s' = s ∧ answer.createdId = none) ∨
    ∃ decision uid, s.policyStorage.findPolicy context.keys = some decision ∧
      uid ∉ s.associationIdGenerator.uidGenerated ∧
      answer = .created (Numeral.dec uid) (toJson decision) ∧
      s' = { s with
        associationIdGenerator := ⟨uid, insert uid s.associationIdGenerator.uidGenerated⟩
        associations := Function.update s.associations (Numeral.dec uid)
          (some ⟨context.attributes, toJson decision⟩) } := by
  unfold createSmPolicyHandler at h
  cases hfound : s.policyStorage.findPolicy context.keys with
  | none =>
    rw [hfound] at h
    cases h
    exact .inl ⟨rfl, rfl⟩
  | some decision =>
    rw [hfound] at h
    obtain ⟨⟨generator, uid⟩, hgiven, hpair⟩ := Option.map_eq_some_iff.mp h
    obtain ⟨hnew, rfl⟩ := UintGenerator.getUid_spec hgiven
    have hnone : s.associations (Numeral.dec uid) = none := by
      by_contra hsome
      obtain ⟨uid', huid', heq⟩ := hs _ hsome
      exact hnew (dec_injective heq ▸ huid')
    dsimp only at hpair
    rw [hnone] at hpair
    cases hpair
    exact .inr ⟨decision, uid, rfl, hnew, rfl, rfl⟩

/-- What one request keeps and does. -/
structure StepSpec (s s' : SmPolicyControl) (e : SmPolicyRequest) (answer : SmPolicyAnswer) : Prop where
  storage : s'.policyStorage = s.policyStorage
  generated : s.associationIdGenerator.uidGenerated ⊆ s'.associationIdGenerator.uidGenerated
  given : IdsGiven s'
  created : ∀ id, answer.createdId = some id → ∃ uid, id = Numeral.dec uid ∧
    uid ∉ s.associationIdGenerator.uidGenerated ∧ uid ∈ s'.associationIdGenerator.uidGenerated
  associations : ∀ id, s'.associations id = forId id (s.associations id) (e, answer)

theorem smPolicyStep_spec {e : SmPolicyRequest} {out : List SmPolicyAnswer} (hs : IdsGiven s)
    (h : smPolicyStep toJson s e = some (s', out)) : ∃ answer, out = [answer] ∧ StepSpec s s' e answer := by
  cases e with
  | create context =>
    obtain ⟨⟨t, answer⟩, hcreate, hpair⟩ := Option.map_eq_some_iff.mp h
    cases hpair
    refine ⟨answer, rfl, ?_⟩
    rcases createSmPolicyHandler_spec hs hcreate with
      ⟨rfl, hnone⟩ | ⟨decision, uid, -, hnew, rfl, rfl⟩
    · refine ⟨rfl, subset_rfl, hs, fun id hid => ?_, fun id => ?_⟩
      · rw [hnone] at hid
        cases hid
      · cases answer with
        | created associationId decision => cases hnone
        | _ => rfl
    · refine ⟨rfl, Finset.subset_insert _ _, fun id hid => ?_, fun id hid => ?_, fun id => ?_⟩
      · by_cases heq : id = Numeral.dec uid
        · exact ⟨uid, Finset.mem_insert_self _ _, heq⟩
        · dsimp only at hid
          rw [Function.update_of_ne heq] at hid
          obtain ⟨uid', huid', rfl⟩ := hs id hid
          exact ⟨uid', Finset.mem_insert_of_mem huid', rfl⟩
      · obtain rfl := Option.some.inj hid
        exact ⟨uid, rfl, hnew, Finset.mem_insert_self _ _⟩
      · unfold forId
        dsimp only
        by_cases heq : Numeral.dec uid = id
        · rw [if_pos heq, ← heq, Function.update_self]
        · rw [if_neg heq, Function.update_of_ne (Ne.symm heq)]
  | get id =>
    cases h
    refine ⟨_, rfl, rfl, subset_rfl, hs, fun id' hid => ?_, fun id' => rfl⟩
    unfold getSmPolicyHandler at hid
    split at hid <;> cases hid
  | update id update =>
    cases h
    refine ⟨_, rfl, rfl, subset_rfl, fun id' hid => ?_, fun id' hid => (by cases hid), fun id' => ?_⟩
    · refine hs id' fun hnone => hid ?_
      unfold updateSmPolicyHandler
      cases hfound : s.associations id with
      | none => exact hnone
      | some a =>
        have hne : id' ≠ id := fun heq => by
          rw [heq, hfound] at hnone
          cases hnone
        exact (Function.update_of_ne hne ..).trans hnone
    · unfold updateSmPolicyHandler forId
      dsimp only
      cases hfound : s.associations id with
      | none =>
        dsimp only
        split_ifs with heq
        · rw [← heq, hfound]
          rfl
        · rfl
      | some a =>
        dsimp only
        split_ifs with heq
        · rw [← heq, hfound, Function.update_self]
          rfl
        · rw [Function.update_of_ne (Ne.symm heq)]
  | delete id =>
    cases h
    unfold deleteSmPolicyHandler
    cases hfound : s.associations id with
    | none =>
      refine ⟨_, rfl, rfl, subset_rfl, hs, fun id' hid => (by cases hid), fun id' => ?_⟩
      unfold forId
      dsimp only
      split_ifs with heq
      · rw [← heq, hfound]
      · rfl
    | some a =>
      refine ⟨_, rfl, rfl, subset_rfl, fun id' hid => ?_, fun id' hid => (by cases hid), fun id' => ?_⟩
      · by_cases heq : id' = id
        · subst heq
          exact absurd (Function.update_self ..) hid
        · dsimp only at hid
          rw [Function.update_of_ne heq] at hid
          exact hs id' hid
      · unfold forId
        dsimp only
        split_ifs with heq
        · rw [heq, Function.update_self]
        · rw [Function.update_of_ne (Ne.symm heq)]

end

/-- A request comes back as long as an id is left, and takes one where it creates an association. -/
theorem smPolicyStep_comes_back (toJson : SmPolicyDecision → Str) (s : SmPolicyControl) (e : SmPolicyRequest)
    (hleft : e.Creates s.policyStorage → s.associationIdGenerator.uidGenerated.card < 2 ^ 32) :
    ∃ s' out, smPolicyStep toJson s e = some (s', out) ∧ s'.policyStorage = s.policyStorage ∧
      s'.associationIdGenerator.uidGenerated.card ≤
        s.associationIdGenerator.uidGenerated.card + (e.Creates s.policyStorage).toNat := by
  cases e with
  | create context =>
    cases hfound : s.policyStorage.findPolicy context.keys with
    | none =>
      simp only [smPolicyStep, createSmPolicyHandler, hfound, Option.map_some]
      exact ⟨_, _, rfl, rfl, Nat.le_add_right _ _⟩
    | some decision =>
      have hcreates : (SmPolicyRequest.create context).Creates s.policyStorage = true := by
        simp only [SmPolicyRequest.Creates, hfound, Option.isSome_some]
      obtain ⟨uid, huid⟩ := UintGenerator.getUid_terminates (hleft hcreates)
      simp only [smPolicyStep, createSmPolicyHandler, hfound, huid, Option.map_some]
      refine ⟨_, _, rfl, rfl, ?_⟩
      rw [hcreates]
      exact Finset.card_insert_le _ _
  | get id => exact ⟨_, _, rfl, rfl, Nat.le_add_right _ _⟩
  | update id update => exact ⟨_, _, rfl, rfl, Nat.le_add_right _ _⟩
  | delete id =>
    refine ⟨_, _, rfl, ?_, ?_⟩
    · unfold deleteSmPolicyHandler
      split <;> rfl
    · unfold deleteSmPolicyHandler
      split <;> exact Nat.le_add_right _ _

/-- **A run that creates no more associations than there are ids is answered to its end.** -/
theorem trace_comes_back (toJson : SmPolicyDecision → Str) (es : List SmPolicyRequest) (s : SmPolicyControl)
    (hleft : s.associationIdGenerator.uidGenerated.card + es.countP (·.Creates s.policyStorage) ≤ 2 ^ 32) :
    ∃ s' answers, trace (smPolicyStep toJson) s es = some (s', answers) := by
  induction es generalizing s with
  | nil => exact ⟨s, [], rfl⟩
  | cons e es ih =>
    rw [List.countP_cons] at hleft
    have hthis : e.Creates s.policyStorage → s.associationIdGenerator.uidGenerated.card < 2 ^ 32 := by
      intro he
      rw [if_pos he] at hleft
      omega
    obtain ⟨s₁, o₁, hstep, hstorage, hcard⟩ := smPolicyStep_comes_back toJson s e hthis
    have hrest : s₁.associationIdGenerator.uidGenerated.card + es.countP (·.Creates s₁.policyStorage) ≤
        2 ^ 32 := by
      rw [hstorage]
      cases he : e.Creates s.policyStorage <;> rw [he] at hcard hleft <;>
        simp only [Bool.toNat_false, Bool.toNat_true, Bool.false_eq_true, if_false, if_true] at hcard hleft <;>
        omega
    obtain ⟨s₂, o₂, hes⟩ := ih s₁ hrest
    exact ⟨s₂, o₁ ++ o₂, trace_cons_eq_some.mpr ⟨s₁, o₁, o₂, hstep, hes, rfl⟩⟩

/-- No association, and no id given. -/
def SmPolicyControl.ofStorage (storage : PolicyStorage) : SmPolicyControl :=
  ⟨storage, .empty, fun _ => none⟩

/-- What is under an id is what the requests with this id have made of it, in a run that comes back. -/
theorem associations_of_trace {toJson : SmPolicyDecision → Str} {storage : PolicyStorage}
    {es : List SmPolicyRequest} {s : SmPolicyControl} {answers : List SmPolicyAnswer}
    (h : trace (smPolicyStep toJson) (.ofStorage storage) es = some (s, answers)) :
    answers.length = es.length ∧ (answers.filterMap SmPolicyAnswer.createdId).Nodup ∧
      ∀ id, s.associations id = (es.zip answers).foldl (forId id) none := by
  have hinv : IdsGiven s ∧ answers.length = es.length ∧
      (answers.filterMap SmPolicyAnswer.createdId).Nodup ∧
      (∀ id ∈ answers.filterMap SmPolicyAnswer.createdId,
        ∃ uid ∈ s.associationIdGenerator.uidGenerated, id = Numeral.dec uid) ∧
      ∀ id, s.associations id = (es.zip answers).foldl (forId id) none := by
    refine trace_induction (I := fun es s answers => IdsGiven s ∧ answers.length = es.length ∧
      (answers.filterMap SmPolicyAnswer.createdId).Nodup ∧
      (∀ id ∈ answers.filterMap SmPolicyAnswer.createdId,
        ∃ uid ∈ s.associationIdGenerator.uidGenerated, id = Numeral.dec uid) ∧
      ∀ id, s.associations id = (es.zip answers).foldl (forId id) none) ?_ ?_ h
    · refine ⟨fun id hid => ?_, rfl, List.nodup_nil, fun id hid => (by cases hid), fun _ => rfl⟩
      exact absurd rfl hid
    · rintro es s₁ o₁ e s₂ o₂ - ⟨hgiven, hlength, hnodup, hids, hassociations⟩ hstep
      obtain ⟨answer, rfl, hspec⟩ := smPolicyStep_spec hgiven hstep
      have hzip : (es ++ [e]).zip (o₁ ++ [answer]) = es.zip o₁ ++ [(e, answer)] :=
        List.zip_append hlength.symm
      refine ⟨hspec.given, by simp [hlength], ?_, fun id hid => ?_, fun id => ?_⟩
      · rw [List.filterMap_append, List.nodup_append]
        refine ⟨hnodup, ?_, fun a ha b hb heq => ?_⟩
        · cases hid : answer.createdId <;> simp [hid]
        · obtain ⟨x, hx, hxb⟩ := List.mem_filterMap.mp hb
          obtain rfl := List.mem_singleton.mp hx
          obtain ⟨uid, rfl, hnew, -⟩ := hspec.created b hxb
          obtain ⟨uid', huid', rfl⟩ := hids a ha
          exact hnew (dec_injective heq ▸ huid')
      · rw [List.filterMap_append, List.mem_append] at hid
        rcases hid with hid | hid
        · obtain ⟨uid, huid, rfl⟩ := hids id hid
          exact ⟨uid, hspec.generated huid, rfl⟩
        · obtain ⟨x, hx, hxid⟩ := List.mem_filterMap.mp hid
          obtain rfl := List.mem_singleton.mp hx
          obtain ⟨uid, rfl, -, hin⟩ := hspec.created id hxid
          exact ⟨uid, hin, rfl⟩
      · rw [hzip, List.foldl_append, hspec.associations, hassociations]
        rfl
  exact ⟨hinv.2.1, hinv.2.2.1, hinv.2.2.2.2⟩

/-- **The associations are independent**: in every order of requests that asks for no more than 2^32 of them
each one is answered; the ids that are given are all different, also from those of deleted associations, and
what is under an id is what the requests with this id have made of it. -/
theorem associations_independent (toJson : SmPolicyDecision → Str) (storage : PolicyStorage)
    (es : List SmPolicyRequest) :
    (es.countP (·.Creates storage) ≤ 2 ^ 32 →
      ∃ s answers, trace (smPolicyStep toJson) (.ofStorage storage) es = some (s, answers)) ∧
    ∀ s answers, trace (smPolicyStep toJson) (.ofStorage storage) es = some (s, answers) →
      answers.length = es.length ∧ (answers.filterMap SmPolicyAnswer.createdId).Nodup ∧
        ∀ id, s.associations id = (es.zip answers).foldl (forId id) none := by
  refine ⟨fun hcount => trace_comes_back toJson es (.ofStorage storage) ?_,
    fun s answers h => associations_of_trace h⟩
  change (∅ : Finset ℕ).card + _ ≤ _
  rw [Finset.card_empty, Nat.zero_add]
  exact hcount

/-- A context without any attribute. -/
def exampleContext : CreateContext := ⟨⟨[], [], ⟨1, none⟩⟩, fun _ => none⟩

/-- Two associations, the first of which is deleted, and a third. -/
def exampleRequests : List SmPolicyRequest :=
  [.create exampleContext, .create exampleContext, .delete ['1'], .create exampleContext, .get ['2']]

/-- A storage with an empty default decision. -/
def exampleStorage : PolicyStorage := PolicyStorage.empty.setDefaultDecision .empty

theorem associations_independent_three :
    (∃ s answers, trace (smPolicyStep fun _ => ['\x7b', '\x7d']) (.ofStorage exampleStorage) exampleRequests =
      some (s, answers)) ∧
    ∃ s answers, trace (smPolicyStep fun _ => ['\x7b', '\x7d']) (.ofStorage exampleStorage) exampleRequests =
        some (s, answers) ∧
      answers.filterMap SmPolicyAnswer.createdId = [['1'], ['2'], ['3']] ∧
      (answers.length = exampleRequests.length ∧ (answers.filterMap SmPolicyAnswer.createdId).Nodup ∧
        ∀ id, s.associations id = (exampleRequests.zip answers).foldl (forId id) none) :=
  ⟨(associations_independent _ exampleStorage exampleRequests).1 (by decide), _, _, rfl, rfl,
    (associations_independent (fun _ => ['\x7b', '\x7d']) exampleStorage exampleRequests).2 _ _ rfl⟩

end Oai5g.Pcf
