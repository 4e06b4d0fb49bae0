import Oai5g.Upf.Steps

/-!
# Rejected Establishment Requests

A Session Establishment Request that is rejected should leave the tables, the sessions and their rules
as they were.

* `createdKeys`: the keys of the PDRs that are created before one is refused.
* `createPdrs_spec`: what the loop over the Create PDRs leaves; `cleanup_eq` then says what is taken back.
* **`rejected_untouched_iff`**: exactly when a rejected request leaves everything as it was.
-/

namespace Oai5g.Upf

/-! ## The property and the condition -/

/-- The tables, and the sessions and rules that were there, are the same. -/
structure Untouched (s s' : PfcpSwitch) : Prop where
  cpFseid2pfcpSessions : s'.cpFseid2pfcpSessions = s.cpFseid2pfcpSessions
  upSeid2pfcpSessions : s'.upSeid2pfcpSessions = s.upSeid2pfcpSessions
  pdrTable : s'.pdrTable = s.pdrTable
  sessions : ∀ r < s.sessions.next, s'.session r = s.session r
  pdrs : ∀ p < s.pdrs.next, s'.pdr p = s.pdr p
  fars : ∀ f < s.fars.next, s'.far f = s.far f

/-- The keys of the PDRs before the first that is refused, after `n` TEIDs were given. -/
def createdKeys (fars : List CreateFar) : ℕ → List CreatePdr → List LookupKey
  | _, [] => []
  | n, c :: l =>
    match PfcpSwitch.checkFarId fars c, PfcpSwitch.checkCreatePdr c with
    | .ok (), .ok x => PfcpSwitch.keyFor n x :: createdKeys fars (PfcpSwitch.teidsAfter n x) l
    | _, _ => []

/-- **The condition**: where the FARs of a request for a new session pass their checks, nothing is stored
under the keys of the PDRs before the first that is refused. -/
def KeysFree (req : EstablishmentRequest) (s : PfcpSwitch) : Prop :=
  ∀ fseid, req.cpFseid = some fseid → s.cpFseid2pfcpSessions fseid = none →
    (∀ c ∈ req.createFars, PfcpSwitch.checkCreateFar c = .ok ()) →
    ∀ key ∈ createdKeys req.createFars s.teidN3Generator req.createPdrs, s.pdrTable key = none

namespace PfcpSwitch

/-! ## What the rules of a new session leave alone -/

/-- Only the lists of the session `r`, its new rules, the lookup table and the generators differ. -/
structure Extends (r : ℕ) (s s' : PfcpSwitch) : Prop where
  cpFseid2pfcpSessions : s'.cpFseid2pfcpSessions = s.cpFseid2pfcpSessions
  upSeid2pfcpSessions : s'.upSeid2pfcpSessions = s.upSeid2pfcpSessions
  sessions : ∀ q, q ≠ r → s'.session q = s.session q
  pdrs_next : s.pdrs.next ≤ s'.pdrs.next
  pdrs : ∀ p < s.pdrs.next, s'.pdr p = s.pdr p
  fars_next : s.fars.next ≤ s'.fars.next
  fars : ∀ f < s.fars.next, s'.far f = s.far f

variable {r : ℕ} {s s' s'' : PfcpSwitch}

@[refl] theorem Extends.refl (r : ℕ) (s : PfcpSwitch) : Extends r s s :=
  ⟨rfl, rfl, fun _ _ => rfl, le_rfl, fun _ _ => rfl, le_rfl, fun _ _ => rfl⟩

theorem Extends.trans (h : Extends r s s') (h' : Extends r s' s'') : Extends r s s'' where
  cpFseid2pfcpSessions := h'.cpFseid2pfcpSessions.trans h.cpFseid2pfcpSessions
  upSeid2pfcpSessions := h'.upSeid2pfcpSessions.trans h.upSeid2pfcpSessions
  sessions q hq := (h'.sessions q hq).trans (h.sessions q hq)
  pdrs_next := h.pdrs_next.trans h'.pdrs_next
  pdrs p hp := (h'.pdrs p (hp.trans_le h.pdrs_next)).trans (h.pdrs p hp)
  fars_next := h.fars_next.trans h'.fars_next
  fars f hf := (h'.fars f (hf.trans_le h.fars_next)).trans (h.fars f hf)

theorem Extends.addFar (far : PfcpFar) : Extends r s (s.addFar r far) where
  cpFseid2pfcpSessions := rfl
  upSeid2pfcpSessions := rfl
  sessions q hq := s.addFar_session_of_ne r q far hq
  pdrs_next := le_rfl
  pdrs _ _ := rfl
  fars_next := Nat.le_succ _
  fars f hf := s.addFar_far_of_ne r f far hf.ne

theorem Extends.addPdr (key : LookupKey) (pdr : PfcpPdr) : Extends r s (s.addPdr r key pdr) where
  cpFseid2pfcpSessions := rfl
  upSeid2pfcpSessions := rfl
  sessions q hq := s.addPdr_session_of_ne r q key pdr hq
  pdrs_next := Nat.le_succ _
  pdrs p hp := s.addPdr_pdr_of_ne r p key pdr hp.ne
  fars_next := le_rfl
  fars _ _ := rfl

theorem Extends.cleanup : Extends r s (s.cleanup r) := by
  rw [cleanup_eq]
  exact ⟨rfl, rfl, fun q hq => modifySession_session_of_ne _ r q _ hq, le_rfl, fun _ _ => rfl, le_rfl,
    fun _ _ => rfl⟩

/-! ## The loops of an Establishment Request -/

theorem checkCreateFar_error {c : CreateFar} {e : Refusal} (h : checkCreateFar c = .error e) :
    e.cause ≠ .requestAccepted := by
  unfold checkCreateFar at h
  split at h
  · cases h
    decide
  · cases h
    decide
  · split_ifs at h <;> cases h <;> decide

/-- The loop over the Create FARs leaves the PDRs alone; the cause stays when all are created. -/
theorem createFars_spec (l : List CreateFar) (s : PfcpSwitch) (a : PfcpResponse) :
    Extends r s (createFars r l (s, a)).1 ∧
      (createFars r l (s, a)).1.pdrTable = s.pdrTable ∧
      (createFars r l (s, a)).1.pdrs = s.pdrs ∧
      (createFars r l (s, a)).1.teidN3Generator = s.teidN3Generator ∧
      ((createFars r l (s, a)).1.session r).pdrs = (s.session r).pdrs ∧
      ((∀ c ∈ l, checkCreateFar c = .ok ()) → (createFars r l (s, a)).2 = a) ∧
      (¬ (∀ c ∈ l, checkCreateFar c = .ok ()) →
        (createFars r l (s, a)).2.cause ≠ .requestAccepted) := by
  induction l generalizing s with
  | nil => exact ⟨.refl r s, rfl, rfl, rfl, rfl, fun _ => rfl, fun h => (h (by simp)).elim⟩
  | cons c l ih =>
    unfold createFars createFar
    cases hc : checkCreateFar c with
    | error e =>
      refine ⟨.refl r s, rfl, rfl, rfl, rfl, fun h => ?_, fun _ => checkCreateFar_error hc⟩
      have := h c (by simp)
      rw [hc] at this
      cases this
    | ok u =>
      obtain ⟨hext, htable, hpdrs, hgen, hlist, hall, hnot⟩ := ih (s.addFar r (.ofCreate c))
      refine ⟨(Extends.addFar _).trans hext, htable, hpdrs, hgen, ?_, fun h => ?_, fun h => ?_⟩
      · exact hlist.trans (by rw [addFar_session_self]; rfl)
      · exact hall fun d hd => h d (by simp [hd])
      · exact hnot fun h' => h fun d hd => by
          rcases List.mem_cons.mp hd with rfl | hd
          · exact hc
          · exact h' d hd

theorem sessionKeys_addPdr {key : LookupKey} {pdr : PfcpPdr} (hkey : pdr.key = some key)
    (hbound : ∀ p ∈ (s.session r).pdrs, p < s.pdrs.next) :
    (s.addPdr r key pdr).sessionKeys r = s.sessionKeys r ++ [key] := by
  have hold : (s.session r).pdrs.filterMap (fun p => ((s.addPdr r key pdr).pdr p).key) =
      s.sessionKeys r :=
    List.filterMap_congr fun p hp => by rw [addPdr_pdr_of_ne _ _ _ _ _ (hbound p hp).ne]
  unfold sessionKeys
  rw [addPdr_session_self]
  change ((s.session r).pdrs ++ [s.pdrs.next]).filterMap _ = _
  rw [List.filterMap_append, hold]
  simp [hkey, sessionKeys]

/-- **The loop over the Create PDRs**: the session has the created keys, and nothing changes under the
others. -/
theorem createPdrs_spec (cfg : UpfCfg) (fars : List CreateFar) (b : Bool) (l : List CreatePdr)
    (s : PfcpSwitch) (a : PfcpResponse) (hbound : ∀ p ∈ (s.session r).pdrs, p < s.pdrs.next) :
    Extends r s (createPdrs cfg r fars b l (s, a)).1 ∧
      (createPdrs cfg r fars b l (s, a)).1.sessionKeys r =
        s.sessionKeys r ++ createdKeys fars s.teidN3Generator l ∧
      ∀ k, k ∉ createdKeys fars s.teidN3Generator l →
        (createPdrs cfg r fars b l (s, a)).1.pdrTable k = s.pdrTable k := by
  induction l generalizing s a with
  | nil => exact ⟨.refl r s, by simp [createPdrs, createdKeys], fun _ _ => rfl⟩
  | cons c l ih =>
    obtain ⟨herr, hok⟩ := createPdr_eq cfg r c s
    unfold createPdrs createdKeys
    cases hfar : checkFarId fars c with
    | error e => exact ⟨.refl r s, by simp, fun _ _ => rfl⟩
    | ok u =>
      cases hc : checkCreatePdr c with
      | error e =>
        rw [herr e hc]
        exact ⟨.refl r s, by simp, fun _ _ => rfl⟩
      | ok x =>
        obtain ⟨fteid, heq⟩ := hok x hc
        rw [heq]
        dsimp only
        have hkey := pdrFor_key cfg c hc s.teidN3Generator (s.session r).seid
        obtain ⟨hext, hkeys, htable⟩ := ih
          ({ s with teidN3Generator := teidsAfter s.teidN3Generator x }.addPdr r
            (keyFor s.teidN3Generator x) (pdrFor cfg c s.teidN3Generator (s.session r).seid x))
          (a.addCreatedPdr ⟨c.pdrId.getD 0, if b && fteid.isZero then none else some fteid⟩)
          (fun p hp => by
            rw [addPdr_session_self] at hp
            rcases List.mem_append.mp hp with hp | hp
            · exact (hbound p hp).trans (Nat.lt_succ_self _)
            · rw [List.mem_singleton.mp hp]
              exact Nat.lt_succ_self _)
        have hgen : ({ s with teidN3Generator := teidsAfter s.teidN3Generator x }.addPdr r
            (keyFor s.teidN3Generator x)
            (pdrFor cfg c s.teidN3Generator (s.session r).seid x)).teidN3Generator =
              teidsAfter s.teidN3Generator x := rfl
        have hstart : Extends r s { s with teidN3Generator := teidsAfter s.teidN3Generator x } :=
          ⟨rfl, rfl, fun _ _ => rfl, le_rfl, fun _ _ => rfl, le_rfl, fun _ _ => rfl⟩
        rw [hgen] at hkeys htable
        refine ⟨(hstart.trans (.addPdr _ _)).trans hext, ?_, fun k hk => ?_⟩
        · have hone := @sessionKeys_addPdr r
            { s with teidN3Generator := teidsAfter s.teidN3Generator x } _ _ hkey hbound
          exact hkeys.trans (by rw [hone, List.append_assoc]; rfl)
        · rw [List.mem_cons, not_or] at hk
          rw [htable k hk.2]
          exact addPdr_pdrTable_of_ne _ _ _ _ hk.1

end PfcpSwitch

/-! ## Exactly when a rejected request leaves everything as it was -/

open PfcpSwitch

theorem establishRules_cleanup (cfg : UpfCfg) (req : EstablishmentRequest) (fseid : Fseid)
    (s : PfcpSwitch) :
    let t := ((establishRules cfg s.sessions.next req (s.newSession fseid)).1.cleanup s.sessions.next)
    Extends s.sessions.next (s.newSession fseid) t ∧
      ((∀ c ∈ req.createFars, checkCreateFar c = .ok ()) → ∀ k, t.pdrTable k =
        if k ∈ createdKeys req.createFars s.teidN3Generator req.createPdrs then none
        else s.pdrTable k) ∧
      (¬ (∀ c ∈ req.createFars, checkCreateFar c = .ok ()) → t.pdrTable = s.pdrTable) := by
  intro t
  have hnew : (s.newSession fseid).session s.sessions.next = ⟨fseid, s.nextSeid, [], []⟩ :=
    Heap.alloc_cell_next ..
  obtain ⟨hext, htable, hpdrs, hgen, hlist, hall, hnot⟩ :=
    createFars_spec (r := s.sessions.next) req.createFars (s.newSession fseid) .accepted
  rw [hnew] at hlist
  -- the session has no PDR when the loop over the Create PDRs starts
  have hbound : ∀ p ∈ ((createFars s.sessions.next req.createFars
      (s.newSession fseid, .accepted)).1.session s.sessions.next).pdrs,
      p < (createFars s.sessions.next req.createFars (s.newSession fseid, .accepted)).1.pdrs.next := by
    rw [hlist]
    simp
  have hnone : (createFars s.sessions.next req.createFars
      (s.newSession fseid, .accepted)).1.sessionKeys s.sessions.next = [] := by
    rw [sessionKeys, hlist]
    rfl
  have ht : t = ((establishRules cfg s.sessions.next req (s.newSession fseid)).1.cleanup
    s.sessions.next) := rfl
  unfold establishRules ifAccepted at ht
  refine ⟨?_, fun h => ?_, fun h => ?_⟩
  · rw [ht]
    split_ifs
    · exact (hext.trans (createPdrs_spec cfg _ _ _ _ _ hbound).1).trans .cleanup
    · exact hext.trans .cleanup
  · have hacc : PfcpResponse.accepted.cause = .requestAccepted := rfl
    rw [hall h, if_pos hacc] at ht
    obtain ⟨-, hkeys, hsame⟩ := createPdrs_spec cfg req.createFars false req.createPdrs _
      PfcpResponse.accepted hbound
    rw [hgen] at hkeys hsame
    have hpair : createFars s.sessions.next req.createFars (s.newSession fseid, .accepted) =
        ((createFars s.sessions.next req.createFars (s.newSession fseid, .accepted)).1, .accepted) := by
      exact Prod.ext rfl (hall h)
    intro k
    rw [ht, hpair, cleanup_eq, modifySession_pdrTable]
    dsimp only [eraseKeys]
    rw [hkeys, hnone, List.nil_append]
    change (if k ∈ createdKeys req.createFars s.teidN3Generator req.createPdrs then none else _) = _
    split_ifs with hk
    · rfl
    · rw [hsame k hk, htable]
      rfl
  · rw [if_neg (hnot h)] at ht
    rw [ht, cleanup_eq, modifySession_pdrTable]
    funext k
    dsimp only [eraseKeys]
    rw [hnone, htable]
    simp [newSession]

/-- The lookup table after a rejected Establishment Request whose keys were free. -/
theorem pdrTable_cleanup_of_keysFree (cfg : UpfCfg) {req : EstablishmentRequest} {fseid : Fseid} {s : PfcpSwitch}
    (hfree : KeysFree req s) (hfseid : req.cpFseid = some fseid) (hnone : s.cpFseid2pfcpSessions fseid = none) :
    ((establishRules cfg s.sessions.next req (s.newSession fseid)).1.cleanup s.sessions.next).pdrTable =
      s.pdrTable := by
  obtain ⟨-, htable, hsame⟩ := establishRules_cleanup cfg req fseid s
  by_cases hfars : ∀ c ∈ req.createFars, checkCreateFar c = .ok ()
  · funext k
    rw [htable hfars k]
    split_ifs with hk
    · exact (hfree fseid hfseid hnone hfars k hk).symm
    · rfl
  · exact hsame hfars

/-- **A rejected Establishment Request leaves everything as it was exactly when the keys of the PDRs it
had created were free.** -/
theorem rejected_untouched_iff (cfg : UpfCfg) (req : EstablishmentRequest) (s : PfcpSwitch)
    (h : (s.handlePfcpSessionEstablishmentRequest cfg req).2.cause ≠ .requestAccepted) :
    Untouched s (s.handlePfcpSessionEstablishmentRequest cfg req).1 ↔ KeysFree req s := by
  have hself : Untouched s s := ⟨rfl, rfl, rfl, fun _ _ => rfl, fun _ _ => rfl, fun _ _ => rfl⟩
  cases hfseid : req.cpFseid with
  | none =>
    simp only [handlePfcpSessionEstablishmentRequest, hfseid]
    exact iff_of_true hself fun fseid hf => by rw [hfseid] at hf; cases hf
  | some fseid =>
    by_cases hexist : (s.cpFseid2pfcpSessions fseid).isSome
    · simp only [handlePfcpSessionEstablishmentRequest, hfseid, hexist, if_true]
      refine iff_of_true hself fun f hf hnone => ?_
      rw [hfseid] at hf
      cases hf
      rw [hnone] at hexist
      cases hexist
    · have hnone : s.cpFseid2pfcpSessions fseid = none := by
        simpa [Option.isSome_iff_ne_none] using hexist
      obtain ⟨hext, htable, -⟩ := establishRules_cleanup cfg req fseid s
      have hres : s.handlePfcpSessionEstablishmentRequest cfg req =
          ((establishRules cfg s.sessions.next req (s.newSession fseid)).1.cleanup s.sessions.next,
            (establishRules cfg s.sessions.next req (s.newSession fseid)).2) := by
        simp only [handlePfcpSessionEstablishmentRequest, hfseid, hnone, Option.isSome_none,
          Bool.false_eq_true, if_false] at h ⊢
        split_ifs at h ⊢ with hacc
        · exact absurd hacc h
        · rfl
      rw [hres]
      dsimp only
      have hrest : ∀ ht : ((establishRules cfg s.sessions.next req
          (s.newSession fseid)).1.cleanup s.sessions.next).pdrTable = s.pdrTable,
          Untouched s ((establishRules cfg s.sessions.next req
            (s.newSession fseid)).1.cleanup s.sessions.next) := fun ht =>
        { cpFseid2pfcpSessions := hext.cpFseid2pfcpSessions
          upSeid2pfcpSessions := hext.upSeid2pfcpSessions
          pdrTable := ht
          sessions := fun q hq => (hext.sessions q hq.ne).trans (Heap.alloc_cell_of_ne _ _ hq.ne)
          pdrs := hext.pdrs
          fars := hext.fars }
      constructor
      · intro hun f hf _ hfars key hkey
        rw [← hun.pdrTable, htable hfars key, if_pos hkey]
      · intro hfree
        exact hrest (pdrTable_cleanup_of_keysFree cfg hfree hfseid hnone)

/-! ## Two requests -/

section

/-- A UPF with the N3 address 10.0.0.1. -/
def exampleCfg : UpfCfg := ⟨0x0100000a, 0, ⟨true, false, 0, 0x0100000a, 0⟩⟩

/-- A control plane F-SEID. -/
def exampleFseid (seid : UInt64) : Fseid := ⟨true, false, seid, 0x0200000a, 0⟩

/-- A FAR with an id that drops. -/
def dropFar (id : UInt32) : CreateFar := ⟨some id, some ⟨false, false, false, false, true⟩, none, none, none⟩

/-- A CORE PDR for a UE address. -/
def corePdr (id : UInt16) (precedence ueIp : UInt32) : CreatePdr :=
  { pdrId := some id, precedence := some precedence,
    pdi := some ⟨some INTERFACE_VALUE_CORE, none, some ⟨true, ueIp⟩, none⟩,
    outerHeaderRemoval := none, farId := some 1, urrId := none, qerId := none }

/-- An ACCESS PDR for a TEID. -/
def accessPdr (id : UInt16) (precedence teid : UInt32) : CreatePdr :=
  { pdrId := some id, precedence := some precedence,
    pdi := some ⟨some INTERFACE_VALUE_ACCESS, some ⟨false, false, true, teid, 0x0100000a, 0⟩, none, none⟩,
    outerHeaderRemoval := some 0, farId := some 1, urrId := none, qerId := none }

/-- A session with one FAR and some PDRs. -/
def establish (seid : UInt64) (pdrs : List CreatePdr) : EstablishmentRequest :=
  ⟨some (exampleFseid seid), [dropFar 1], pdrs⟩

/-- The second PDR has no id; the UE address of the first is new. -/
theorem rejected_untouched_iff_newAddress :
    (PfcpSwitch.init.handlePfcpSessionEstablishmentRequest exampleCfg
        (establish 1 [corePdr 1 10 5, { corePdr 2 10 6 with pdrId := none }])).2.cause ≠
          .requestAccepted ∧
      (Untouched PfcpSwitch.init (PfcpSwitch.init.handlePfcpSessionEstablishmentRequest exampleCfg
          (establish 1 [corePdr 1 10 5, { corePdr 2 10 6 with pdrId := none }])).1 ↔
        KeysFree (establish 1 [corePdr 1 10 5, { corePdr 2 10 6 with pdrId := none }])
          PfcpSwitch.init) :=
  ⟨by decide, rejected_untouched_iff exampleCfg _ PfcpSwitch.init (by decide)⟩

/-- **The same request, where another session has a PDR for that address**: its PDR is gone from the
table. -/
theorem rejected_erases_other :
    (switchStep exampleCfg .init (.establishment (establish 1 [corePdr 1 10 5]))
        |>.handlePfcpSessionEstablishmentRequest exampleCfg
          (establish 2 [corePdr 1 10 5, { corePdr 2 10 6 with pdrId := none }])).2.cause ≠
          .requestAccepted ∧
      ¬ Untouched (switchStep exampleCfg .init (.establishment (establish 1 [corePdr 1 10 5])))
        (switchStep exampleCfg .init (.establishment (establish 1 [corePdr 1 10 5]))
          |>.handlePfcpSessionEstablishmentRequest exampleCfg
            (establish 2 [corePdr 1 10 5, { corePdr 2 10 6 with pdrId := none }])).1 := by
  refine ⟨by decide, fun h => ?_⟩
  have := congrFun h.pdrTable (.ueIpv4 (be32toh 5))
  exact absurd this (by decide)

end

end Oai5g.Upf
