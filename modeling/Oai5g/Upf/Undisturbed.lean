import Oai5g.Upf.Operations
import Oai5g.Upf.Traffic

/-!
# Requests for other sessions

What the requests for other sessions do to a session, as the packets of its UE see it.

* `Apart`: no rule belongs to two sessions; `Apart.switchStep`: this holds in every state.
* `Separate`: no other session has a key of the session; `SameSession`: its rules and what is stored under
  its keys are the same in two states.
* `ForOthers`: a request that names another session and has no PDR under the keys.
* **`others_undisturbed`**: after any packets and any such requests, the packets of the session find the same
  rules.
-/

namespace Oai5g.Upf

open PfcpSwitch

/-! ## Rules of one session only -/

/-- The rules of the sessions were made, each PDR has the SEID of its session, and no rule belongs to two
sessions. -/
structure Apart (s : PfcpSwitch) : Prop where
  own : ∀ q, ∀ p ∈ (s.session q).pdrs, (s.pdr p).localSeid = (s.session q).seid
  pdrsMade : ∀ q, ∀ p ∈ (s.session q).pdrs, p < s.pdrs.next
  farsMade : ∀ q, ∀ f ∈ (s.session q).fars, f < s.fars.next
  pdrs : ∀ q q', q ≠ q' → ∀ p ∈ (s.session q).pdrs, p ∉ (s.session q').pdrs
  fars : ∀ q q', q ≠ q' → ∀ f ∈ (s.session q).fars, f ∉ (s.session q').fars

section

variable {s s' : PfcpSwitch} {q r p f : ℕ}

theorem Shrinks.modifySession {g : PfcpSession → PfcpSession} (hg : Shrinks g) (s : PfcpSwitch) (q r : ℕ) :
    ((s.modifySession q g).session r).Within (s.session r) := by
  by_cases hr : r = q
  · subst hr
    rw [modifySession_session_self]
    exact hg _
  · rw [modifySession_session_of_ne _ _ _ _ hr]

theorem mem_fars_addFar {far : PfcpFar} (h : f ∈ ((s.addFar q far).session r).fars) :
    f ∈ (s.session r).fars ∨ r = q ∧ f = s.fars.next := by
  by_cases hr : r = q
  · subst hr
    rw [addFar_session_self] at h
    exact (List.mem_append.mp h).imp_right fun h => ⟨rfl, List.mem_singleton.mp h⟩
  · rw [addFar_session_of_ne _ _ _ _ hr] at h
    exact .inl h

theorem pdrs_addFar (s : PfcpSwitch) (q r : ℕ) (far : PfcpFar) :
    ((s.addFar q far).session r).pdrs = (s.session r).pdrs := by
  by_cases hr : r = q
  · subst hr
    rw [addFar_session_self]
    rfl
  · rw [addFar_session_of_ne _ _ _ _ hr]

theorem seid_addFar (s : PfcpSwitch) (q r : ℕ) (far : PfcpFar) :
    ((s.addFar q far).session r).seid = (s.session r).seid := by
  by_cases hr : r = q
  · subst hr
    rw [addFar_session_self]
    rfl
  · rw [addFar_session_of_ne _ _ _ _ hr]

theorem mem_pdrs_addPdr {key : LookupKey} {pdr : PfcpPdr} (h : p ∈ ((s.addPdr q key pdr).session r).pdrs) :
    p ∈ (s.session r).pdrs ∨ r = q ∧ p = s.pdrs.next := by
  by_cases hr : r = q
  · subst hr
    rw [addPdr_session_self] at h
    exact (List.mem_append.mp h).imp_right fun h => ⟨rfl, List.mem_singleton.mp h⟩
  · rw [addPdr_session_of_ne _ _ _ _ _ hr] at h
    exact .inl h

theorem fars_addPdr (s : PfcpSwitch) (q r : ℕ) (key : LookupKey) (pdr : PfcpPdr) :
    ((s.addPdr q key pdr).session r).fars = (s.session r).fars := by
  by_cases hr : r = q
  · subst hr
    rw [addPdr_session_self]
    rfl
  · rw [addPdr_session_of_ne _ _ _ _ _ hr]

theorem newSession_within (s : PfcpSwitch) (fseid : Fseid) (q : ℕ) :
    ((s.newSession fseid).session q).Within (s.session q) := by
  by_cases hq : q = s.sessions.next
  · have hself : (s.newSession fseid).session q = ⟨fseid, s.nextSeid, [], []⟩ := by
      rw [hq]
      exact Heap.alloc_cell_next ..
    rw [hself]
    exact .nil rfl rfl
  · have hsame : (s.newSession fseid).session q = s.session q := Heap.alloc_cell_of_ne _ _ hq
    rw [hsame]

theorem seid_addPdr (s : PfcpSwitch) (q r : ℕ) (key : LookupKey) (pdr : PfcpPdr) :
    ((s.addPdr q key pdr).session r).seid = (s.session r).seid := by
  by_cases hr : r = q
  · subst hr
    rw [addPdr_session_self]
    rfl
  · rw [addPdr_session_of_ne _ _ _ _ _ hr]

end

namespace Apart

variable {s s' : PfcpSwitch} (cfg : UpfCfg) {q : ℕ}

theorem init : Apart .init := by
  constructor <;> simp [PfcpSwitch.init, PfcpSwitch.session]

theorem of_within (h : Apart s) (hpdrs : s'.pdrs.next = s.pdrs.next) (hfars : s'.fars.next = s.fars.next)
    (hseid : ∀ p, (s'.pdr p).localSeid = (s.pdr p).localSeid)
    (hlists : ∀ q, (s'.session q).Within (s.session q)) : Apart s' where
  own q p hp := by
    rw [hseid, (hlists q).seid (List.ne_nil_of_mem hp)]
    exact h.own q p ((hlists q).pdrs hp)
  pdrsMade q p hp := hpdrs ▸ h.pdrsMade q p ((hlists q).pdrs hp)
  farsMade q f hf := hfars ▸ h.farsMade q f ((hlists q).fars hf)
  pdrs q q' hq p hp hp' := h.pdrs q q' hq p ((hlists q).pdrs hp) ((hlists q').pdrs hp')
  fars q q' hq f hf hf' := h.fars q q' hq f ((hlists q).fars hf) ((hlists q').fars hf')

theorem updatePdr (h : Apart s) (p : ℕ) (u : UpdatePdr) :
    Apart (s.modifyPdr p fun pdr => pdr.update u) := by
  refine h.of_within rfl rfl (fun q => ?_) fun q => .refl _
  by_cases hq : q = p
  · subst hq
    rw [modifyPdr_pdr_self]
    rfl
  · rw [modifyPdr_pdr_of_ne _ _ _ _ hq]

theorem addFar (h : Apart s) (q : ℕ) (far : PfcpFar) : Apart (s.addFar q far) := by
  refine ⟨fun r p hp => ?_, fun r p hp => ?_, fun r f hf => ?_, fun r r' hr p hp => ?_,
    fun r r' hr f hf hf' => ?_⟩
  · rw [pdrs_addFar] at hp
    rw [seid_addFar]
    exact h.own r p hp
  · rw [pdrs_addFar] at hp
    exact h.pdrsMade r p hp
  · rcases mem_fars_addFar hf with hold | ⟨-, rfl⟩
    · exact (h.farsMade r f hold).trans (Nat.lt_succ_self _)
    · exact Nat.lt_succ_self _
  · rw [pdrs_addFar] at hp ⊢
    exact h.pdrs r r' hr p hp
  · rcases mem_fars_addFar hf with hold | ⟨rfl, rfl⟩ <;> rcases mem_fars_addFar hf' with hold' | ⟨rfl, hnew⟩
    · exact h.fars r r' hr f hold hold'
    · exact (h.farsMade r f hold).ne hnew
    · exact (h.farsMade r' _ hold').ne rfl
    · exact hr rfl

theorem addPdr (h : Apart s) (q : ℕ) (key : LookupKey) {pdr : PfcpPdr}
    (hpdr : pdr.localSeid = (s.session q).seid) : Apart (s.addPdr q key pdr) := by
  refine ⟨fun r p hp => ?_, fun r p hp => ?_, fun r f hf => ?_, fun r r' hr p hp hp' => ?_,
    fun r r' hr f hf => ?_⟩
  · rw [seid_addPdr]
    rcases mem_pdrs_addPdr hp with hold | ⟨rfl, rfl⟩
    · rw [addPdr_pdr_of_ne _ _ _ _ _ (h.pdrsMade r p hold).ne]
      exact h.own r p hold
    · rw [addPdr_pdr_next]
      exact hpdr
  · rcases mem_pdrs_addPdr hp with hold | ⟨-, rfl⟩
    · exact (h.pdrsMade r p hold).trans (Nat.lt_succ_self _)
    · exact Nat.lt_succ_self _
  · rw [fars_addPdr] at hf
    exact h.farsMade r f hf
  · rcases mem_pdrs_addPdr hp with hold | ⟨rfl, rfl⟩ <;> rcases mem_pdrs_addPdr hp' with hold' | ⟨rfl, hnew⟩
    · exact h.pdrs r r' hr p hold hold'
    · exact (h.pdrsMade r p hold).ne hnew
    · exact (h.pdrsMade r' _ hold').ne rfl
    · exact hr rfl
  · rw [fars_addPdr] at hf ⊢
    exact h.fars r r' hr f hf

theorem keptFor : KeptFor (fun _ => True) Set.univ Apart where
  modifySession s q _ _ hg h := h.of_within rfl rfl (fun _ => rfl) (hg.modifySession s q)
  addFar _ q far _ h := h.addFar q far
  addPdr _ q key _ _ _ _ hpdr h := h.addPdr q key hpdr
  generate _ _ h := h.of_within rfl rfl (fun _ => rfl) fun _ => .refl _
  updatePdr _ _ p u _ _ _ h := h.updatePdr p u
  updateFar _ _ _ _ _ _ h := h.of_within rfl rfl (fun _ => rfl) fun _ => .refl _
  eraseKeys _ _ _ h := h.of_within rfl rfl (fun _ => rfl) fun _ => .refl _
  newSession s fseid h := h.of_within rfl rfl (fun _ => rfl) (newSession_within s fseid)
  register _ _ _ h := h.of_within rfl rfl (fun _ => rfl) fun _ => .refl _

/-- **No request gives a rule to two sessions.** -/
theorem switchStep (h : Apart s) (e : SessionRequest) : Apart (Upf.switchStep cfg s e) :=
  keptFor.switchStep cfg (fun _ _ => trivial) (KeysAmong.univ s e) h

theorem run (h : Apart s) (reqs : List SessionRequest) : Apart (Oai5g.run (Upf.switchStep cfg) s reqs) := by
  induction reqs generalizing s with
  | nil => exact h
  | cons e reqs ih => exact ih (h.switchStep cfg e)

end Apart

/-! ## A session and the others -/

section

variable (r : ℕ) (keys : Set LookupKey)

/-- No other session has a key of session `r`. -/
structure Separate (s : PfcpSwitch) : Prop where
  stored : ∀ key ∈ keys, ∀ l, s.pdrTable key = some l → ∀ p ∈ l, p ∈ (s.session r).pdrs
  others : ∀ q, q ≠ r → ∀ p ∈ (s.session q).pdrs, ∀ key ∈ keys, (s.pdr p).key ≠ some key

/-- Session `r` is the same in both states, with its rules and what is stored under its keys. -/
structure SameSession (s s' : PfcpSwitch) : Prop where
  session : s'.session r = s.session r
  pdrs : ∀ p ∈ (s.session r).pdrs, s'.pdr p = s.pdr p
  fars : ∀ f ∈ (s.session r).fars, s'.far f = s.far f
  table : ∀ key ∈ keys, s'.pdrTable key = s.pdrTable key

/-- A session that is the same as in `s₀`, and that the others leave alone. -/
structure Spared (s₀ s : PfcpSwitch) : Prop where
  apart : Apart s
  made : r < s.sessions.next
  separate : Separate r keys s
  same : SameSession r keys s₀ s

end

variable {r : ℕ} {keys : Set LookupKey} {s₀ s s' : PfcpSwitch}

theorem SameSession.refl (r : ℕ) (keys : Set LookupKey) (s : PfcpSwitch) : SameSession r keys s s :=
  ⟨rfl, fun _ _ => rfl, fun _ _ => rfl, fun _ _ => rfl⟩

theorem SameSession.trans (h : SameSession r keys s₀ s) (h' : SameSession r keys s s') :
    SameSession r keys s₀ s' where
  session := h'.session.trans h.session
  pdrs p hp := (h'.pdrs p (h.session ▸ hp)).trans (h.pdrs p hp)
  fars f hf := (h'.fars f (h.session ▸ hf)).trans (h.fars f hf)
  table key hkey := (h'.table key hkey).trans (h.table key hkey)

namespace Spared

/-- What changes no rules, nothing under the keys of the session, and gives no session a rule. -/
theorem of_within (h : Spared r keys s₀ s) (hpdrs : s'.pdrs = s.pdrs) (hfars : s'.fars = s.fars)
    (hnext : s.sessions.next ≤ s'.sessions.next)
    (htable : ∀ key ∈ keys, s'.pdrTable key = s.pdrTable key) (hself : s'.session r = s.session r)
    (hlists : ∀ q, (s'.session q).Within (s.session q)) : Spared r keys s₀ s' where
  apart := h.apart.of_within (by rw [hpdrs]) (by rw [hfars])
    (fun _ => by simp only [PfcpSwitch.pdr, hpdrs]) hlists
  made := h.made.trans_le hnext
  separate := {
    stored := fun key hkey l hl p hp => by
      rw [htable key hkey] at hl
      rw [hself]
      exact h.separate.stored key hkey l hl p hp
    others := fun q hq p hp key hkey => by
      simp only [PfcpSwitch.pdr, hpdrs]
      exact h.separate.others q hq p ((hlists q).pdrs hp) key hkey }
  same := h.same.trans ⟨hself, fun _ _ => by simp only [PfcpSwitch.pdr, hpdrs],
    fun _ _ => by simp only [PfcpSwitch.far, hfars], htable⟩

theorem addFar (h : Spared r keys s₀ s) {q : ℕ} (hq : q ≠ r) (far : PfcpFar) :
    Spared r keys s₀ (s.addFar q far) where
  apart := h.apart.addFar q far
  made := h.made
  separate := {
    stored := fun key hkey l hl p hp => by
      rw [pdrs_addFar]
      exact h.separate.stored key hkey l hl p hp
    others := fun q' hq' p hp key hkey => by
      rw [pdrs_addFar] at hp
      exact h.separate.others q' hq' p hp key hkey }
  same := h.same.trans ⟨addFar_session_of_ne _ _ _ _ hq.symm, fun _ _ => rfl,
    fun f hf => addFar_far_of_ne _ _ _ _ (h.apart.farsMade r f hf).ne, fun _ _ => rfl⟩

theorem addPdr (h : Spared r keys s₀ s) {q : ℕ} (hq : q ≠ r) {key : LookupKey} {pdr : PfcpPdr}
    (hkey : key ∈ keysᶜ) (hpdr : pdr.key = some key) (hseid : pdr.localSeid = (s.session q).seid) :
    Spared r keys s₀ (s.addPdr q key pdr) := by
  have hold : ∀ {q' p}, p ∈ (s.session q').pdrs → (s.addPdr q key pdr).pdr p = s.pdr p := fun hp =>
    addPdr_pdr_of_ne _ _ _ _ _ (h.apart.pdrsMade _ _ hp).ne
  have htable : ∀ key' ∈ keys, (s.addPdr q key pdr).pdrTable key' = s.pdrTable key' := fun key' hkey' =>
    addPdr_pdrTable_of_ne _ _ _ _ fun heq => hkey (heq ▸ hkey')
  have hself := addPdr_session_of_ne s q r key pdr hq.symm
  refine ⟨h.apart.addPdr q key hseid, h.made, ⟨fun key' hkey' l hl p hp => ?_, fun q' hq' p hp key' hkey' => ?_⟩,
    h.same.trans ⟨hself, fun p hp => hold hp, fun _ _ => rfl, htable⟩⟩
  · rw [htable key' hkey'] at hl
    rw [hself]
    exact h.separate.stored key' hkey' l hl p hp
  · rcases mem_pdrs_addPdr hp with hp | ⟨-, rfl⟩
    · rw [hold hp]
      exact h.separate.others q' hq' p hp key' hkey'
    · rw [addPdr_pdr_next, hpdr]
      rintro heq
      obtain rfl := Option.some.inj heq
      exact hkey hkey'

/-- A PDR of another session that is changed, and keeps away from the keys. -/
theorem updatePdr (h : Spared r keys s₀ s) {q p : ℕ} (hq : q ≠ r) (hp : p ∈ (s.session q).pdrs)
    {u : UpdatePdr} (hu : ∀ key, u.pdi.bind Pdi.key = some key → key ∈ keysᶜ) :
    Spared r keys s₀ (s.modifyPdr p fun pdr => pdr.update u) where
  apart := h.apart.updatePdr p u
  made := h.made
  separate := {
    stored := h.separate.stored
    others := fun q' hq' p' hp' key hkey => by
      by_cases hpp : p' = p
      · subst hpp
        rw [modifyPdr_pdr_self]
        unfold PfcpPdr.key PfcpPdr.update
        dsimp only
        cases hpdi : u.pdi with
        | none => exact h.separate.others q' hq' p' hp' key hkey
        | some pdi => exact fun heq => hu key (by rw [hpdi]; exact heq) hkey
      · rw [modifyPdr_pdr_of_ne _ _ _ _ hpp]
        exact h.separate.others q' hq' p' hp' key hkey }
  same := h.same.trans ⟨rfl, fun p' hp' => modifyPdr_pdr_of_ne _ _ _ _ fun heq =>
    h.apart.pdrs q r hq p hp (heq ▸ hp'), fun _ _ => rfl, fun _ _ => rfl⟩

theorem updateFar (h : Spared r keys s₀ s) {q f : ℕ} (hq : q ≠ r) (hf : f ∈ (s.session q).fars)
    (g : PfcpFar → PfcpFar) : Spared r keys s₀ (s.modifyFar f g) where
  apart := h.apart.of_within rfl rfl (fun _ => rfl) fun _ => .refl _
  made := h.made
  separate := ⟨h.separate.stored, h.separate.others⟩
  same := h.same.trans ⟨rfl, fun _ _ => rfl, fun _ hf' => Heap.modify_cell_of_ne _ _ _ fun heq =>
    h.apart.fars q r hq f hf (heq ▸ hf'), fun _ _ => rfl⟩

/-- **What another session does spares the session.** -/
theorem keptFor (r : ℕ) (keys : Set LookupKey) (s₀ : PfcpSwitch) :
    KeptFor (· ≠ r) keysᶜ (Spared r keys s₀) where
  modifySession s q g hq hg h := h.of_within rfl rfl le_rfl (fun _ _ => rfl)
    (modifySession_session_of_ne _ _ _ _ hq.symm) (hg.modifySession s q)
  addFar _ _ far hq h := h.addFar hq far
  addPdr _ _ _ _ hq hkey hpdr hseid h := h.addPdr hq hkey hpdr hseid
  generate _ _ h := h.of_within rfl rfl le_rfl (fun _ _ => rfl) rfl fun _ => .refl _
  updatePdr _ _ _ _ hq hp hu h := h.updatePdr hq hp hu
  updateFar _ _ _ _ hq hf h := h.updateFar hq hf _
  eraseKeys s q hq h := by
    refine h.of_within rfl rfl le_rfl (fun key hkey => if_neg fun hmem => ?_) rfl fun _ => .refl _
    obtain ⟨p, hp, hpkey⟩ := List.mem_filterMap.mp hmem
    exact h.separate.others q hq p hp key hkey hpkey
  newSession s fseid h := h.of_within rfl rfl (Nat.le_succ _) (fun _ _ => rfl)
    (Heap.alloc_cell_of_ne _ _ h.made.ne) (newSession_within s fseid)
  register _ _ _ h := h.of_within rfl rfl le_rfl (fun _ _ => rfl) rfl fun _ => .refl _

end Spared

/-! ## Requests for other sessions -/

/-- The SEID that a request names. -/
def SessionRequest.seid : SessionRequest → Option UInt64
  | .establishment _ => none
  | .modification req => some req.seid
  | .deletion seid => some seid

/-- A request for another session that has no PDR under the keys. -/
def ForOthers (seid : UInt64) (keys : Set LookupKey) (s : PfcpSwitch) (e : SessionRequest) : Prop :=
  e.seid ≠ some seid ∧ KeysAmong keysᶜ s e

section

variable (cfg : UpfCfg) {seid : UInt64} {e : SessionRequest}

theorem insertEntry_of_some {m : UInt64 → Option ℕ} {k : UInt64} (h : m k = some r) (k' : UInt64) (q : ℕ) :
    insertEntry m k' q k = some r := by
  unfold insertEntry
  by_cases hk : k = k'
  · subst hk
    rw [Function.update_self, h]
    rfl
  · rw [Function.update_of_ne hk, h]

theorem upSeid_switchStep (hseids : SeidInv s) (hlive : s.upSeid2pfcpSessions seid = some r)
    (he : e.seid ≠ some seid) : (switchStep cfg s e).upSeid2pfcpSessions seid = some r := by
  cases e with
  | establishment req =>
    have hstep := switchStep_seids cfg s (.establishment req)
    unfold switchStep handlePfcpSessionEstablishmentRequest at hstep ⊢
    dsimp only at hstep ⊢
    cases req.cpFseid with
    | none => exact hlive
    | some fseid =>
      dsimp only at hstep ⊢
      obtain ⟨hup, -⟩ := registers_eq (establishRules_registers cfg (s.newSession fseid) s.sessions.next req)
      split_ifs
      · exact hlive
      · unfold storeSession addPfcpSessionByUpSeid addPfcpSessionByCpFseid
        dsimp only
        rw [hup]
        exact insertEntry_of_some hlive _ _
      · obtain ⟨hup', -⟩ := registers_eq (SwitchRegistries.cleanup_registers
          (establishRules cfg s.sessions.next req (s.newSession fseid)).1 s.sessions.next)
        dsimp only
        rw [hup', hup]
        exact hlive
  | modification req =>
    unfold switchStep handlePfcpSessionModificationRequest
    dsimp only
    cases s.upSeid2pfcpSessions req.seid with
    | none => exact hlive
    | some q =>
      dsimp only
      obtain ⟨hup, -⟩ := registers_eq (modifyRules_registers cfg q req (s.takeFseid q req.cpFseid,
        { PfcpResponse.accepted with seid := ((s.takeFseid q req.cpFseid).session q).cpFseid.seid }))
      rw [hup]
      unfold takeFseid
      cases req.cpFseid <;> exact hlive
  | deletion seid' =>
    cases hq : s.upSeid2pfcpSessions seid' with
    | none =>
      unfold switchStep handlePfcpSessionDeletionRequest
      dsimp only
      rw [hq]
      exact hlive
    | some q =>
      have hne : seid ≠ seid' := fun heq => he (congrArg some heq.symm)
      rw [(deletion_seids cfg hq).1, (hseids.own seid' q hq).1, Function.update_of_ne hne]
      exact hlive

theorem sessionOf_ne (hseids : SeidInv s) (hlive : s.upSeid2pfcpSessions seid = some r)
    (he : e.seid ≠ some seid) {q : ℕ} (hq : sessionOf s e = some q) : q ≠ r := by
  have hother : ∀ seid', s.upSeid2pfcpSessions seid' = some q → seid' ≠ seid → q ≠ r := by
    rintro seid' hq' hne rfl
    exact hne ((hseids.own seid' q hq').1.symm.trans (hseids.own seid q hlive).1)
  cases e with
  | establishment req =>
    obtain rfl := Option.some.inj hq
    exact (hseids.own seid r hlive).2.ne'
  | modification req => exact hother req.seid hq fun heq => he (congrArg some heq)
  | deletion seid' => exact hother seid' hq fun heq => he (congrArg some heq)

/-- **A run of requests for others spares the session.** -/
theorem Spared.run (reqs : List SessionRequest) (h : Spared r keys s₀ s) (hseids : SeidInv s)
    (hlive : s.upSeid2pfcpSessions seid = some r)
    (hothers : Along (switchStep cfg) (ForOthers seid keys) s reqs)
    (hcount : s.seidGenerator + reqs.length < 2 ^ 64) :
    Spared r keys s₀ (Oai5g.run (switchStep cfg) s reqs) ∧ SeidInv (Oai5g.run (switchStep cfg) s reqs) ∧
      (Oai5g.run (switchStep cfg) s reqs).upSeid2pfcpSessions seid = some r := by
  induction reqs generalizing s with
  | nil => exact ⟨h, hseids, hlive⟩
  | cons e reqs ih =>
    rw [List.length_cons] at hcount
    obtain ⟨⟨hother, hkeys⟩, hrest⟩ := hothers
    have hstep := switchStep_seids cfg s e
    have hle := hstep.generator_le
    refine ih ?_ (hseids.step hstep (by omega)) (upSeid_switchStep cfg hseids hlive hother) hrest (by omega)
    exact (Spared.keptFor r keys s₀).switchStep cfg (fun q hq => sessionOf_ne hseids hlive hother hq) hkeys h

end

/-! ## The packets of the session -/

/-- In both states the packets from the UE by a tunnel among the keys, and those for a UE address among
them, find the same rules. -/
structure SamePackets (cfg : DatapathCfg) (keys : Set LookupKey) (d d' : Datapath) : Prop where
  uplink : ∀ iph teid, .n3Teid teid ∈ keys → ∀ p r f,
    UplinkRules cfg d' iph teid p r f ↔ UplinkRules cfg d iph teid p r f
  downlink : ∀ iph, .ueIpv4 (be32toh iph.daddr) ∈ keys → ∀ p r f,
    DownlinkRules d' iph p r f ↔ DownlinkRules d iph p r f

section

variable {seid : UInt64}

theorem SameSession.rulesOf (h : SameSession r keys s s') (hapart : Apart s) (hseid : (s.session r).seid = seid)
    (hlive : s.upSeid2pfcpSessions seid = some r) (hlive' : s'.upSeid2pfcpSessions seid = some r) {p : ℕ}
    (hp : p ∈ (s.session r).pdrs) : s'.rulesOf p = s.rulesOf p := by
  have hown : (s.pdr p).localSeid = seid := (hapart.own r p hp).trans hseid
  have hfar : ∀ id, s'.getFar r id = s.getFar r id := by
    intro id
    unfold getFar getRule farKind
    dsimp only
    rw [h.session]
    exact List.find?_congr fun f hf => by rw [h.fars f hf]
  unfold PfcpSwitch.rulesOf
  rw [h.pdrs p hp, hown, hlive, hlive']
  simp only [Option.bind_some, hfar]

theorem Spared.samePackets {cfg : DatapathCfg} {d d' : Datapath} (h : Spared r keys d.switch d'.switch)
    (hapart : Apart d.switch) (hseparate : Separate r keys d.switch) (hseids : SeidInv d.switch)
    (hlive : d.switch.upSeid2pfcpSessions seid = some r)
    (hlive' : d'.switch.upSeid2pfcpSessions seid = some r) : SamePackets cfg keys d d' := by
  have hrules : ∀ p ∈ (d.switch.session r).pdrs, d'.switch.rulesOf p = d.switch.rulesOf p := fun p hp =>
    h.same.rulesOf hapart (hseids.own seid r hlive).1 hlive hlive' hp
  -- the same list, and each PDR in it is one of the session
  have hfound : ∀ key ∈ keys, ∀ hit : PfcpPdr → Bool,
      ((d'.switch.pdrTable key).bind fun l => l.find? fun p => hit (d'.switch.pdr p)) =
        (d.switch.pdrTable key).bind fun l => l.find? fun p => hit (d.switch.pdr p) := by
    intro key hkey hit
    rw [h.same.table key hkey]
    cases hl : d.switch.pdrTable key with
    | none => rfl
    | some l =>
      exact List.find?_congr fun p hp => by
        rw [h.same.pdrs p (hseparate.stored key hkey l hl p hp)]
  have hmem : ∀ key ∈ keys, ∀ hit : ℕ → Bool, ∀ p,
      ((d.switch.pdrTable key).bind fun l => l.find? hit) = some p → p ∈ (d.switch.session r).pdrs := by
    intro key hkey hit p hp
    obtain ⟨l, hl, hfind⟩ := Option.bind_eq_some_iff.mp hp
    exact hseparate.stored key hkey l hl p (List.mem_of_find?_eq_some hfind)
  constructor
  · intro iph teid hkey p q f
    have hsame := hfound _ hkey fun pdr => pdr.lookUpPackInAccess iph.saddr teid
    refine and_congr_right fun _ => ?_
    unfold foundInAccess
    rw [hsame]
    refine and_congr_right fun hp => ?_
    rw [hrules p (hmem _ hkey _ p hp)]
  · intro iph hkey p q f
    have hsame := hfound _ hkey fun pdr => pdr.lookUpPackInCore iph.daddr
    refine and_congr_right fun _ => ?_
    unfold foundInCore
    rw [hsame]
    refine and_congr_right fun hp => ?_
    rw [hrules p (hmem _ hkey _ p hp)]

end

/-- **Requests for other sessions do not touch a session**: after any packets, and any requests that name
others and have no PDR under its keys, its packets find the same rules, with the same FARs. -/
theorem others_undisturbed (cfg : DatapathCfg) (depth : ℕ) (es₁ es₂ : List DatapathEvent) (seid : UInt64)
    (r : ℕ) (keys : Set LookupKey) {d₁ d₂ : Datapath} {sent₁ sent₂ : List DatapathOutput}
    (hrun₁ : trace (datapathStep cfg depth) .init es₁ = some (d₁, sent₁))
    (hlive : d₁.switch.upSeid2pfcpSessions seid = some r) (hseparate : Separate r keys d₁.switch)
    (hrun₂ : trace (datapathStep cfg depth) d₁ es₂ = some (d₂, sent₂))
    (hothers : Along (switchStep cfg.upf) (ForOthers seid keys) d₁.switch (requestsOf es₂))
    (hcount : (requestsOf es₁).length + (requestsOf es₂).length < 2 ^ 64) :
    d₂.switch.upSeid2pfcpSessions seid = some r ∧ SameSession r keys d₁.switch d₂.switch ∧
      Separate r keys d₂.switch ∧ SamePackets cfg keys d₁ d₂ := by
  have hseids : SeidInv d₁.switch ∧ d₁.switch.seidGenerator ≤ 0 + (requestsOf es₁).length := by
    rw [trace_switch hrun₁]
    exact seid_run (I := SeidInv) cfg.upf (requestsOf es₁) (fun _ _ hs h hgen => hs.step h hgen)
      SeidInv.init (show 0 + (requestsOf es₁).length < 2 ^ 64 by omega)
  have hapart : Apart d₁.switch := by
    rw [trace_switch hrun₁]
    exact Apart.init.run cfg.upf _
  have hspared : Spared r keys d₁.switch d₁.switch :=
    ⟨hapart, (hseids.1.own seid r hlive).2, hseparate, .refl ..⟩
  have hswitch := trace_switch hrun₂
  obtain ⟨hspared₂, -, hlive₂⟩ := hspared.run cfg.upf (requestsOf es₂) hseids.1 hlive hothers (by omega)
  rw [← hswitch] at hspared₂ hlive₂
  exact ⟨hlive₂, hspared₂.same, hspared₂.separate,
    hspared₂.samePackets hapart hseparate hseids.1 hlive hlive₂⟩

/-- The keys of the session of the UE 12.1.1.2. -/
def forwardingKeys : Set LookupKey := {.n3Teid 7, .ueIpv4 0x0c010102}

/-- Another session comes and goes, between packets. -/
theorem others_undisturbed_one : ∃ d₁ d₂ sent₁ sent₂,
    trace (datapathStep forwardingCfg 1) .init [.request establishForwarding fun _ => 9] =
      some (d₁, sent₁) ∧
    trace (datapathStep forwardingCfg 1) d₁
      [.request (.establishment (establish 2 [corePdr 1 10 5])) fun _ => 9, downlinkPacket,
        .request (.deletion 2) fun _ => 9, uplinkDatagram] = some (d₂, sent₂) ∧ sent₂.length = 3 ∧
    (d₂.switch.upSeid2pfcpSessions 1 = some 0 ∧ SameSession 0 forwardingKeys d₁.switch d₂.switch ∧
      Separate 0 forwardingKeys d₂.switch ∧ SamePackets forwardingCfg forwardingKeys d₁ d₂) := by
  refine ⟨_, _, _, _, rfl, rfl, rfl, others_undisturbed forwardingCfg 1
    [.request establishForwarding fun _ => 9]
    [.request (.establishment (establish 2 [corePdr 1 10 5])) fun _ => 9, downlinkPacket,
      .request (.deletion 2) fun _ => 9, uplinkDatagram] 1 0 forwardingKeys rfl rfl ⟨?_, ?_⟩ rfl
    ⟨⟨by decide, ?_⟩, ⟨by decide, trivial⟩, trivial⟩ (by decide)⟩
  · rintro key (rfl | rfl) l hl p hp
    · obtain rfl := Option.some.inj hl
      obtain rfl : p = 0 := List.mem_singleton.mp hp
      exact List.mem_cons_self
    · obtain rfl := Option.some.inj hl
      exact List.mem_cons_of_mem _ hp
  · intro q hq p hp
    cases q with
    | zero => exact absurd rfl hq
    | succ q => cases hp
  · intro key hkey
    obtain rfl := List.mem_singleton.mp hkey
    rintro (h | h)
    · cases h
    · exact absurd h (by decide)

end Oai5g.Upf
