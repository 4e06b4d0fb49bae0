import Oai5g.Upf.Rejected

/-!
# The operations of a request

* `PfcpSession.Within`, `Shrinks`: a session with some of its rules, and a change that leaves it so.
* `KeptFor`: what every operation keeps that a request carries out on a session, where the sessions and the
  keys of the new PDRs are restricted.
* **`KeptFor.switchStep`**: what the operations keep, the request keeps.
-/

namespace Oai5g.Upf

open PfcpSwitch

/-! ## Operations -/

/-- A session with some of the rules of another; where it has a PDR, with the SEID of the other. -/
structure PfcpSession.Within (x y : PfcpSession) : Prop where
  pdrs : x.pdrs ⊆ y.pdrs
  fars : x.fars ⊆ y.fars
  seid : x.pdrs ≠ [] → x.seid = y.seid

@[refl] theorem PfcpSession.Within.refl (x : PfcpSession) : x.Within x := ⟨fun _ h => h, fun _ h => h, fun _ => rfl⟩

theorem PfcpSession.Within.nil {x y : PfcpSession} (hpdrs : x.pdrs = []) (hfars : x.fars = []) :
    x.Within y where
  pdrs := hpdrs ▸ List.nil_subset _
  fars := hfars ▸ List.nil_subset _
  seid h := absurd hpdrs h

/-- A session gets no new rules. -/
def Shrinks (f : PfcpSession → PfcpSession) : Prop := ∀ session, (f session).Within session

/-- Every operation on a session that meets `C`, with keys among `K`, keeps `I`. -/
structure KeptFor (C : ℕ → Prop) (K : Set LookupKey) (I : PfcpSwitch → Prop) : Prop where
  modifySession : ∀ s q g, C q → Shrinks g → I s → I (s.modifySession q g)
  addFar : ∀ s q far, C q → I s → I (s.addFar q far)
  addPdr : ∀ s q key pdr, C q → key ∈ K → pdr.key = some key → pdr.localSeid = (s.session q).seid →
    I s → I (s.addPdr q key pdr)
  generate : ∀ s n, I s → I { s with teidN3Generator := n }
  updatePdr : ∀ s q p u, C q → p ∈ (s.session q).pdrs →
    (∀ key, u.pdi.bind Pdi.key = some key → key ∈ K) → I s → I (s.modifyPdr p fun pdr => pdr.update u)
  updateFar : ∀ s q f u, C q → f ∈ (s.session q).fars → I s → I (s.modifyFar f fun far => far.update u)
  eraseKeys : ∀ s q, C q → I s → I (s.eraseKeys (s.sessionKeys q))
  newSession : ∀ s fseid, I s → I (s.newSession fseid)
  register : ∀ s up cp, I s → I { s with upSeid2pfcpSessions := up, cpFseid2pfcpSessions := cp }

/-- The session that a request works on. -/
def sessionOf (s : PfcpSwitch) : SessionRequest → Option ℕ
  | .establishment _ => some s.sessions.next
  | .modification req => s.upSeid2pfcpSessions req.seid
  | .deletion seid => s.upSeid2pfcpSessions seid

/-- The keys that a request brings are among `K`. -/
def KeysAmong (K : Set LookupKey) (s : PfcpSwitch) : SessionRequest → Prop
  | .establishment req => ∀ key ∈ createdKeys req.createFars s.teidN3Generator req.createPdrs, key ∈ K
  | .modification req =>
      (∀ key ∈ createdKeys req.createFars s.teidN3Generator req.createPdrs, key ∈ K) ∧
      ∀ u ∈ req.updatePdrs, ∀ key, u.pdi.bind Pdi.key = some key → key ∈ K
  | .deletion _ => True

theorem KeysAmong.univ (s : PfcpSwitch) (e : SessionRequest) : KeysAmong Set.univ s e := by
  cases e with
  | establishment req => exact fun _ _ => trivial
  | modification req => exact ⟨fun _ _ => trivial, fun _ _ _ _ => trivial⟩
  | deletion seid => trivial

/-! ## The loops -/

section

variable {s s' : PfcpSwitch} {r : ℕ}

theorem removeRule_shrinks {ρ α : Type} [DecidableEq α] {kind : RuleKind ρ α}
    (hkind : ∀ session l, l ⊆ kind.list session → (kind.setList session l).Within session)
    {id : Option α} (h : s.removeRule kind r id = .ok s') : ∃ g, Shrinks g ∧ s' = s.modifySession r g := by
  unfold PfcpSwitch.removeRule at h
  cases id with
  | none => cases h
  | some i =>
    dsimp only at h
    cases hp : s.getRule kind r i with
    | none =>
      rw [hp] at h
      cases h
    | some p =>
      rw [hp] at h
      cases h
      exact ⟨_, fun session => hkind session _ List.eraseP_subset, rfl⟩

theorem updateRule_mem {ρ α : Type} [DecidableEq α] {kind : RuleKind ρ α} {id : α} {g : ρ → ρ}
    (h : s.updateRule kind r id g = some s') :
    ∃ p ∈ kind.list (s.session r), s' = kind.modify s p g := by
  obtain ⟨p, hp, rfl⟩ := Option.map_eq_some_iff.mp h
  exact ⟨p, List.mem_of_find?_eq_some hp, rfl⟩

end

namespace KeptFor

variable {C : ℕ → Prop} {K : Set LookupKey} {I : PfcpSwitch → Prop} (h : KeptFor C K I) (cfg : UpfCfg)
  {s : PfcpSwitch} {q : ℕ} (hq : C q) (a : PfcpResponse)

include h hq

theorem createFars (hs : I s) (l : List CreateFar) : I (PfcpSwitch.createFars q l (s, a)).1 :=
  createFars_invariant q a (fun s hs _ _ => h.addFar s q _ hq hs) hs

theorem createPdrs {fars : List CreateFar} (b : Bool) {l : List CreatePdr}
    (hkeys : ∀ key ∈ createdKeys fars s.teidN3Generator l, key ∈ K) (hs : I s) :
    I (PfcpSwitch.createPdrs cfg q fars b l (s, a)).1 := by
  induction l generalizing s a with
  | nil => exact hs
  | cons c l ih =>
    obtain ⟨herr, hok⟩ := createPdr_eq cfg q c s
    unfold PfcpSwitch.createPdrs
    unfold createdKeys at hkeys
    cases hfar : checkFarId fars c with
    | error e => exact hs
    | ok u =>
      cases hc : checkCreatePdr c with
      | error e =>
        dsimp only
        rw [herr e hc]
        exact hs
      | ok x =>
        obtain ⟨fteid, heq⟩ := hok x hc
        rw [hfar, hc] at hkeys
        dsimp only
        rw [heq]
        refine ih _ (fun key hkey => hkeys key (List.mem_cons_of_mem _ hkey)) ?_
        refine h.addPdr _ q _ _ hq (hkeys _ List.mem_cons_self) (pdrFor_key cfg c hc _ _) ?_ (h.generate s _ hs)
        exact pdrFor_localSeid ..

theorem updatePdrs {l : List UpdatePdr}
    (hkeys : ∀ u ∈ l, ∀ key, u.pdi.bind Pdi.key = some key → key ∈ K) (hs : I s) :
    I (PfcpSwitch.updatePdrs q l (s, a)).1 := by
  refine updateRules_invariant q a pdrKind (fun s s' hs u hu heq => ?_) hs
  obtain ⟨p, hp, rfl⟩ := updateRule_mem heq
  exact h.updatePdr s q p u hq hp (hkeys u hu) hs

theorem updateFars (hs : I s) (l : List UpdateFar) : I (PfcpSwitch.updateFars q l (s, a)).1 := by
  refine updateRules_invariant q a farKind (fun s s' hs u _ heq => ?_) hs
  obtain ⟨f, hf, rfl⟩ := updateRule_mem heq
  exact h.updateFar s q f u hq hf hs

theorem cleanup (hs : I s) : I (s.cleanup q) := by
  rw [cleanup_eq]
  exact h.modifySession _ q _ hq (fun _ => .nil rfl rfl) (h.eraseKeys s q hq hs)

/-- The loops of a Modification Request; up to the Create PDRs no TEID is given. -/
theorem modifyRules {req : ModificationRequest}
    (hcreate : ∀ key ∈ createdKeys req.createFars s.teidN3Generator req.createPdrs, key ∈ K)
    (hupdate : ∀ u ∈ req.updatePdrs, ∀ key, u.pdi.bind Pdi.key = some key → key ∈ K) (hs : I s) :
    I (PfcpSwitch.modifyRules cfg q req (s, a)).1 := by
  unfold PfcpSwitch.modifyRules
  refine ifAccepted_invariant (fun _ hs => h.updateFars hq _ (h.updatePdrs hq _ hupdate hs) _) ?_
  generalize hn : s.teidN3Generator = n at hcreate
  have hloops : (I (ifAccepted (PfcpSwitch.createFars q req.createFars) (ifAccepted
      (PfcpSwitch.removeFars q req.removeFars) (PfcpSwitch.removePdrs q req.removePdrs (s, a)))).1 ∧
      (ifAccepted (PfcpSwitch.createFars q req.createFars) (ifAccepted
        (PfcpSwitch.removeFars q req.removeFars)
          (PfcpSwitch.removePdrs q req.removePdrs (s, a)))).1.teidN3Generator = n) := by
    refine ifAccepted_invariant (I := fun s => I s ∧ s.teidN3Generator = n) (fun _ hs => ?_) ?_
    · exact createFars_invariant (I := fun s => I s ∧ s.teidN3Generator = n) q _
        (fun s hs _ _ => ⟨h.addFar s q _ hq hs.1, hs.2⟩) hs
    refine ifAccepted_invariant (I := fun s => I s ∧ s.teidN3Generator = n) (fun _ hs => ?_) ?_
    · refine removeRules_invariant (I := fun s => I s ∧ s.teidN3Generator = n) q _ farKind
        (fun s s' hs id _ heq => ?_) hs
      obtain ⟨g, hg, rfl⟩ := removeRule_shrinks (fun _ _ hl => ⟨fun _ h => h, hl, fun _ => rfl⟩) heq
      exact ⟨h.modifySession s q g hq hg hs.1, hs.2⟩
    · refine removeRules_invariant (I := fun s => I s ∧ s.teidN3Generator = n) q _ pdrKind
        (fun s s' hs id _ heq => ?_) ⟨hs, hn⟩
      obtain ⟨g, hg, rfl⟩ := removeRule_shrinks (fun _ _ hl => ⟨hl, fun _ h => h, fun _ => rfl⟩) heq
      exact ⟨h.modifySession s q g hq hg hs.1, hs.2⟩
  generalize ifAccepted (PfcpSwitch.createFars q req.createFars) _ = x at hloops
  obtain ⟨t, b⟩ := x
  obtain ⟨ht, rfl⟩ := hloops
  exact ifAccepted_invariant (fun _ ht => h.createPdrs cfg hq b true hcreate ht) ht

theorem establishRules {req : EstablishmentRequest}
    (hkeys : ∀ key ∈ createdKeys req.createFars s.teidN3Generator req.createPdrs, key ∈ K) (hs : I s) :
    I (PfcpSwitch.establishRules cfg q req s).1 := by
  have hgen := (createFars_spec (r := q) req.createFars s .accepted).2.2.2.1
  have hfars := h.createFars hq .accepted hs req.createFars
  unfold PfcpSwitch.establishRules
  generalize PfcpSwitch.createFars q req.createFars (s, .accepted) = x at hgen hfars
  obtain ⟨t, b⟩ := x
  dsimp only at hgen
  rw [← hgen] at hkeys
  exact ifAccepted_invariant (fun _ ht => h.createPdrs cfg hq b false hkeys ht) hfars

omit hq in
/-- **What the operations of a request keep, the request keeps.** -/
theorem switchStep {e : SessionRequest} (hC : ∀ q, sessionOf s e = some q → C q) (hK : KeysAmong K s e)
    (hs : I s) : I (Upf.switchStep cfg s e) := by
  cases e with
  | establishment req =>
    have hnext := hC _ rfl
    unfold Upf.switchStep handlePfcpSessionEstablishmentRequest
    dsimp only
    cases req.cpFseid with
    | none => exact hs
    | some fseid =>
      dsimp only
      have hrules : I (PfcpSwitch.establishRules cfg s.sessions.next req (s.newSession fseid)).1 :=
        h.establishRules cfg hnext hK (h.newSession s fseid hs)
      split_ifs
      · exact hs
      · exact h.register _ _ _ (h.register _ _ _ hrules)
      · exact h.cleanup hnext hrules
  | modification req =>
    unfold sessionOf at hC
    unfold Upf.switchStep handlePfcpSessionModificationRequest
    dsimp only at hC ⊢
    cases hr : s.upSeid2pfcpSessions req.seid with
    | none => exact hs
    | some r =>
      have hr := hC r hr
      have htake : I (s.takeFseid r req.cpFseid) ∧
          (s.takeFseid r req.cpFseid).teidN3Generator = s.teidN3Generator := by
        unfold takeFseid
        cases req.cpFseid with
        | none => exact ⟨hs, rfl⟩
        | some fseid =>
          exact ⟨h.modifySession s r (fun session => session.setCpFseid fseid) hr
            (fun session => ⟨fun _ h => h, fun _ h => h, fun _ => rfl⟩) hs, rfl⟩
      refine h.modifyRules cfg hr _ ?_ hK.2 htake.1
      rw [htake.2]
      exact hK.1
  | deletion seid =>
    unfold sessionOf at hC
    unfold Upf.switchStep handlePfcpSessionDeletionRequest
    dsimp only at hC ⊢
    cases hr : s.upSeid2pfcpSessions seid with
    | none => exact hs
    | some r => exact h.register _ _ _ (h.cleanup (hC r hr) hs)

end KeptFor

end Oai5g.Upf
