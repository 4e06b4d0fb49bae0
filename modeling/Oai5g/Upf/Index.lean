import Oai5g.Upf.Rejected

/-!
# The rule index

* `RuleIndex`: the PDRs stored for packet lookup are PDRs of live sessions, and every PDR of a live
  session is stored under the key of its PDI.
* `IndexInv`: the same with what its steps need, where `live` gives the live sessions.
* One lemma for each operation on a rule, with the condition under which it keeps the index:
  `InsertEffective`, `Unstored`, `KeyStays`, `CleanCut`.
* `KeepsIndex`, `ruleIndex_run`: the requests that meet these conditions, and their runs.
-/

namespace Oai5g.Upf

open PfcpSwitch

/-! ## The property -/

/-- The lookup tables and the sessions agree. -/
structure RuleIndex (s : PfcpSwitch) : Prop where
  stored : ∀ key l p, s.pdrTable key = some l → p ∈ l →
    ∃ r, s.upSeid2pfcpSessions (s.pdr p).localSeid = some r ∧ p ∈ (s.session r).pdrs
  indexed : ∀ seid r, s.upSeid2pfcpSessions seid = some r → ∀ p ∈ (s.session r).pdrs, ∀ key,
    (s.pdr p).key = some key → ∃ l, s.pdrTable key = some l ∧ p ∈ l

/-- **The invariant of the lookup tables**: the PDRs in them are of live sessions, each under its key. -/
structure IndexInv (live : UInt64 → Option ℕ) (s : PfcpSwitch) : Prop where
  stored : ∀ key l p, s.pdrTable key = some l → p ∈ l →
    ∃ r, live (s.pdr p).localSeid = some r ∧ p ∈ (s.session r).pdrs
  indexed : ∀ seid r, live seid = some r → ∀ p ∈ (s.session r).pdrs, ∀ key,
    (s.pdr p).key = some key → ∃ l, s.pdrTable key = some l ∧ p ∈ l
  seid : ∀ seid r, live seid = some r → (s.session r).seid = seid ∧ r < s.sessions.next
  own : ∀ seid r, live seid = some r → ∀ p ∈ (s.session r).pdrs,
    (s.pdr p).localSeid = seid ∧ p < s.pdrs.next

/-! ## The conditions -/

/-- The insertion finds nothing under the key, or a PDR of lower precedence to go in front of. -/
def InsertEffective (s : PfcpSwitch) (key : LookupKey) (pdr : PfcpPdr) : Prop :=
  ∀ l, s.pdrTable key = some l → ∃ q ∈ l, (s.pdr q).lt pdr = true

/-- The PDR is not stored for lookup. -/
def Unstored (s : PfcpSwitch) (p : ℕ) : Prop := ∀ key l, s.pdrTable key = some l → p ∉ l

/-- The key of the changed PDR is one it is stored under. -/
def KeyStays (s : PfcpSwitch) (p : ℕ) (u : UpdatePdr) : Prop :=
  ∀ key, ((s.pdr p).update u).key = some key → ∃ l, s.pdrTable key = some l ∧ p ∈ l

/-- The lists under the keys of a session hold its PDRs only, and no other list does. -/
structure CleanCut (s : PfcpSwitch) (r : ℕ) : Prop where
  alone : ∀ key ∈ s.sessionKeys r, ∀ l, s.pdrTable key = some l → ∀ p ∈ l, p ∈ (s.session r).pdrs
  only : ∀ key l p, s.pdrTable key = some l → p ∈ l → p ∈ (s.session r).pdrs →
    key ∈ s.sessionKeys r

section

variable (cfg : UpfCfg) (r : ℕ)

/-- The Create PDRs that are carried out each meet `InsertEffective`. -/
def CreatesIndexed (fars : List CreateFar) : List CreatePdr → PfcpSwitch → Prop
  | [], _ => True
  | c :: l, s => checkFarId fars c = .ok () → ∀ x, checkCreatePdr c = .ok x →
      let s' := { s with teidN3Generator := teidsAfter s.teidN3Generator x }
      let pdr := pdrFor cfg c s.teidN3Generator (s.session r).seid x
      InsertEffective s (keyFor s.teidN3Generator x) pdr ∧
        CreatesIndexed fars l (s'.addPdr r (keyFor s.teidN3Generator x) pdr)

/-- The Remove PDRs that are carried out each meet `Unstored`. -/
def RemovesIndexed : List (Option UInt16) → PfcpSwitch → Prop
  | [], _ => True
  | id :: l, s =>
    match s.removeRule pdrKind r id with
    | .ok s' => (∀ i p, id = some i → s.getRule pdrKind r i = some p → Unstored s p) ∧
        RemovesIndexed l s'
    | .error e => e.cause ≠ .ruleCreationModificationFailure → RemovesIndexed l s

/-- The Update PDRs that are carried out each meet `KeyStays`. -/
def UpdatesIndexed : List UpdatePdr → PfcpSwitch → Prop
  | [], _ => True
  | u :: l, s =>
    match s.getRule pdrKind r u.pdrId with
    | some p => KeyStays s p u ∧ UpdatesIndexed l (s.modifyPdr p fun pdr => pdr.update u)
    | none => UpdatesIndexed l s

/-- A Modification Request of session `r`. -/
def ModifyIndexed (req : ModificationRequest) (x : PfcpSwitch × PfcpResponse) : Prop :=
  let x₁ := removePdrs r req.removePdrs x
  let x₂ := ifAccepted (createFars r req.createFars) (ifAccepted (removeFars r req.removeFars) x₁)
  let x₃ := ifAccepted (createPdrs cfg r req.createFars true req.createPdrs) x₂
  RemovesIndexed r req.removePdrs x.1 ∧
    (x₂.2.cause = .requestAccepted → CreatesIndexed cfg r req.createFars req.createPdrs x₂.1) ∧
    (x₃.2.cause = .requestAccepted → UpdatesIndexed r req.updatePdrs x₃.1)

end

/-- Every rule of an Establishment Request passes its checks. -/
def RulesPass (req : EstablishmentRequest) : Prop :=
  (∀ c ∈ req.createFars, checkCreateFar c = .ok ()) ∧
    ∀ c ∈ req.createPdrs, checkFarId req.createFars c = .ok () ∧ ∃ x, checkCreatePdr c = .ok x

/-- The requests that keep the index, in the state they find. -/
def KeepsIndex (cfg : UpfCfg) (s : PfcpSwitch) : SessionRequest → Prop
  | .establishment req =>
      (¬ RulesPass req → KeysFree req s) ∧
      (RulesPass req → ∀ fseid, req.cpFseid = some fseid → s.cpFseid2pfcpSessions fseid = none →
        s.seidGenerator + 1 < 2 ^ 64 ∧
        CreatesIndexed cfg s.sessions.next req.createFars req.createPdrs
          (createFars s.sessions.next req.createFars (s.newSession fseid, .accepted)).1)
  | .modification req => ∀ r, s.upSeid2pfcpSessions req.seid = some r →
      let s' := s.takeFseid r req.cpFseid
      ModifyIndexed cfg r req
        (s', { PfcpResponse.accepted with seid := (s'.session r).cpFseid.seid })
  | .deletion seid => ∀ r, s.upSeid2pfcpSessions seid = some r → CleanCut s r

/-! ## One operation -/

namespace IndexInv

variable {live : UInt64 → Option ℕ} {s s' : PfcpSwitch} {r : ℕ} {seid₀ : UInt64}

theorem congr (hs : IndexInv live s) (htable : s'.pdrTable = s.pdrTable) (hpdrs : s'.pdrs = s.pdrs)
    (hnext : s'.sessions.next = s.sessions.next)
    (hsession : ∀ r, (s'.session r).pdrs = (s.session r).pdrs ∧
      (s'.session r).seid = (s.session r).seid) : IndexInv live s' := by
  have hpdr : ∀ p, s'.pdr p = s.pdr p := fun p => by simp only [pdr, hpdrs]
  constructor
  · intro key l p hl hp
    obtain ⟨q, hq, hmem⟩ := hs.stored key l p (htable ▸ hl) hp
    exact ⟨q, by rw [hpdr, hq], by rw [(hsession q).1]; exact hmem⟩
  · intro seid q hq p hp key hkey
    rw [htable]
    exact hs.indexed seid q hq p ((hsession q).1 ▸ hp) key (hpdr p ▸ hkey)
  · intro seid q hq
    rw [(hsession q).2, hnext]
    exact hs.seid seid q hq
  · intro seid q hq p hp
    rw [hpdr, hpdrs]
    exact hs.own seid q hq p ((hsession q).1 ▸ hp)

theorem modifySession (hs : IndexInv live s) (q : ℕ) {f : PfcpSession → PfcpSession}
    (hf : ∀ session, (f session).pdrs = session.pdrs ∧ (f session).seid = session.seid) :
    IndexInv live (s.modifySession q f) := by
  refine hs.congr rfl rfl rfl fun r => ?_
  by_cases hr : r = q
  · subst hr
    rw [modifySession_session_self]
    exact hf _
  · rw [modifySession_session_of_ne _ _ _ _ hr]
    exact ⟨rfl, rfl⟩

theorem addFar (hs : IndexInv live s) (q : ℕ) (far : PfcpFar) : IndexInv live (s.addFar q far) := by
  refine hs.congr rfl rfl rfl fun r => ?_
  by_cases hr : r = q
  · subst hr
    rw [addFar_session_self]
    exact ⟨rfl, rfl⟩
  · rw [addFar_session_of_ne _ _ _ _ hr]
    exact ⟨rfl, rfl⟩

theorem lt_next (hs : IndexInv live s) {key : LookupKey} {l : List ℕ} {p : ℕ}
    (hl : s.pdrTable key = some l) (hp : p ∈ l) : p < s.pdrs.next := by
  obtain ⟨r, hr, hmem⟩ := hs.stored key l p hl hp
  exact (hs.own _ r hr p hmem).2

theorem live_unique (hs : IndexInv live s) {seid seid' : UInt64} (h : live seid = some r)
    (h' : live seid' = some r) : seid = seid' :=
  (hs.seid seid r h).1.symm.trans (hs.seid seid' r h').1

end IndexInv

/-! ### Insertion -/

section

variable {s : PfcpSwitch} {p q : ℕ} {l : List ℕ}

theorem mem_insertPdr_of_mem (h : q ∈ l) : q ∈ s.insertPdr p l := by
  induction l with
  | nil => simp at h
  | cons a l ih =>
    unfold PfcpSwitch.insertPdr
    split_ifs
    · exact List.mem_cons_of_mem _ h
    · rcases List.mem_cons.mp h with rfl | h
      · exact List.mem_cons_self
      · exact List.mem_cons_of_mem _ (ih h)

theorem mem_insertPdr (h : q ∈ s.insertPdr p l) : q = p ∨ q ∈ l := by
  induction l with
  | nil => simp [PfcpSwitch.insertPdr] at h
  | cons a l ih =>
    unfold PfcpSwitch.insertPdr at h
    split_ifs at h
    · exact List.mem_cons.mp h
    · rcases List.mem_cons.mp h with rfl | h
      · exact .inr List.mem_cons_self
      · exact (ih h).imp_right (List.mem_cons_of_mem _)

theorem self_mem_insertPdr (h : ∃ q ∈ l, (s.pdr q).lt (s.pdr p) = true) : p ∈ s.insertPdr p l := by
  induction l with
  | nil => simp at h
  | cons a l ih =>
    unfold PfcpSwitch.insertPdr
    split_ifs with hlt
    · exact List.mem_cons_self
    · obtain ⟨q, hq, hqlt⟩ := h
      rcases List.mem_cons.mp hq with rfl | hq
      · exact absurd hqlt hlt
      · exact List.mem_cons_of_mem _ (ih ⟨q, hq, hqlt⟩)

end

namespace IndexInv

variable {live : UInt64 → Option ℕ} {s s' : PfcpSwitch} {r : ℕ} {seid₀ : UInt64}

/-- **A PDR that is created.** -/
theorem addPdr (hs : IndexInv live s) (hr : live seid₀ = some r) {key : LookupKey} {pdr : PfcpPdr}
    (hkey : pdr.key = some key) (hseid : pdr.localSeid = (s.session r).seid)
    (hins : InsertEffective s key pdr) : IndexInv live (s.addPdr r key pdr) := by
  have hold : ∀ {q}, q < s.pdrs.next → (s.addPdr r key pdr).pdr q = s.pdr q :=
    fun hq => addPdr_pdr_of_ne _ _ _ _ _ hq.ne
  have hmem : ∀ {q p}, p ∈ (s.session q).pdrs → p ∈ ((s.addPdr r key pdr).session q).pdrs := by
    intro q p hp
    by_cases hq : q = r
    · subst hq
      rw [addPdr_session_self]
      exact List.mem_append_left _ hp
    · rwa [addPdr_session_of_ne _ _ _ _ _ hq]
  constructor
  · intro k l p hl hp
    have hcases : p = s.pdrs.next ∨ ∃ l', s.pdrTable k = some l' ∧ p ∈ l' := by
      by_cases hk : k = key
      · subst hk
        cases ht : s.pdrTable k with
        | none =>
          rw [addPdr_pdrTable_of_none _ _ _ _ ht] at hl
          obtain rfl := Option.some.inj hl
          exact .inl (List.mem_singleton.mp hp)
        | some l' =>
          rw [addPdr_pdrTable_of_some _ _ _ _ ht] at hl
          obtain rfl := Option.some.inj hl
          exact (mem_insertPdr hp).imp_right fun h => ⟨l', rfl, h⟩
      · rw [addPdr_pdrTable_of_ne _ _ _ _ hk] at hl
        exact .inr ⟨l, hl, hp⟩
    rcases hcases with rfl | ⟨l', hl', hp'⟩
    · refine ⟨r, ?_, ?_⟩
      · rw [addPdr_pdr_next, hseid, (hs.seid _ r hr).1, hr]
      · rw [addPdr_session_self]
        exact List.mem_append_right _ (List.mem_singleton.mpr rfl)
    · obtain ⟨q, hq, hpq⟩ := hs.stored k l' p hl' hp'
      exact ⟨q, by rw [hold (hs.lt_next hl' hp'), hq], hmem hpq⟩
  · intro seid q hq p hp k hk
    have hcases : p = s.pdrs.next ∧ q = r ∨ p ∈ (s.session q).pdrs := by
      by_cases hqr : q = r
      · subst hqr
        rw [addPdr_session_self] at hp
        rcases List.mem_append.mp hp with hp | hp
        · exact .inr hp
        · exact .inl ⟨List.mem_singleton.mp hp, rfl⟩
      · rw [addPdr_session_of_ne _ _ _ _ _ hqr] at hp
        exact .inr hp
    rcases hcases with ⟨rfl, rfl⟩ | hp'
    · rw [addPdr_pdr_next, hkey] at hk
      obtain rfl := Option.some.inj hk
      cases ht : s.pdrTable key with
      | none => exact ⟨_, addPdr_pdrTable_of_none _ _ _ _ ht, List.mem_singleton.mpr rfl⟩
      | some l' =>
        refine ⟨_, addPdr_pdrTable_of_some _ _ _ _ ht, ?_⟩
        apply self_mem_insertPdr
        obtain ⟨q', hq', hlt⟩ := hins l' ht
        refine ⟨q', hq', ?_⟩
        have hne : q' ≠ s.pdrs.next := (hs.lt_next ht hq').ne
        simp only [PfcpSwitch.pdr, Heap.alloc_cell_next, Heap.alloc_cell_of_ne _ _ hne]
        exact hlt
    · have hlt := (hs.own seid q hq p hp').2
      rw [hold hlt] at hk
      obtain ⟨l, hl, hpl⟩ := hs.indexed seid q hq p hp' k hk
      by_cases hkk : k = key
      · subst hkk
        exact ⟨_, addPdr_pdrTable_of_some _ _ _ _ hl, mem_insertPdr_of_mem hpl⟩
      · exact ⟨l, by rw [addPdr_pdrTable_of_ne _ _ _ _ hkk, hl], hpl⟩
  · intro seid q hq
    refine ⟨?_, (hs.seid seid q hq).2⟩
    by_cases hqr : q = r
    · subst hqr
      rw [addPdr_session_self]
      exact (hs.seid seid q hq).1
    · rw [addPdr_session_of_ne _ _ _ _ _ hqr]
      exact (hs.seid seid q hq).1
  · intro seid q hq p hp
    by_cases hqr : q = r
    · subst hqr
      rw [addPdr_session_self] at hp
      rcases List.mem_append.mp hp with hp | hp
      · obtain ⟨h₁, h₂⟩ := hs.own seid q hq p hp
        exact ⟨by rw [hold h₂, h₁], Nat.lt_succ_of_lt h₂⟩
      · obtain rfl := List.mem_singleton.mp hp
        exact ⟨by rw [addPdr_pdr_next, hseid, (hs.seid seid q hq).1], Nat.lt_succ_self _⟩
    · rw [addPdr_session_of_ne _ _ _ _ _ hqr] at hp
      obtain ⟨h₁, h₂⟩ := hs.own seid q hq p hp
      exact ⟨by rw [hold h₂, h₁], Nat.lt_succ_of_lt h₂⟩

/-- **A PDR that is removed**: only one that is not stored may leave its session. -/
theorem removePdr (hs : IndexInv live s) {id : Option UInt16}
    (hun : ∀ i p, id = some i → s.getRule pdrKind r i = some p → Unstored s p)
    (h : s.removeRule pdrKind r id = .ok s') : IndexInv live s' := by
  unfold PfcpSwitch.removeRule at h
  cases id with
  | none => cases h
  | some i =>
    dsimp only at h
    cases hp : s.getRule pdrKind r i with
    | none => rw [hp] at h; cases h
    | some p =>
      rw [hp] at h
      cases h
      have hunstored := hun i p rfl hp
      have hsub : ∀ {q p'}, p' ∈ ((s.modifySession r fun session => pdrKind.setList session
          ((pdrKind.list session).eraseP fun p => pdrKind.ident (pdrKind.cell s p) == i)).session q).pdrs →
          p' ∈ (s.session q).pdrs := by
        intro q p' hp'
        by_cases hq : q = r
        · subst hq
          rw [modifySession_session_self] at hp'
          exact List.mem_of_mem_eraseP hp'
        · rwa [modifySession_session_of_ne _ _ _ _ hq] at hp'
      constructor
      · intro key l p' hl hp'
        obtain ⟨q, hq, hmem⟩ := hs.stored key l p' hl hp'
        refine ⟨q, hq, ?_⟩
        by_cases hqr : q = r
        · subst hqr
          rw [modifySession_session_self]
          have hne : p' ≠ p := fun h => hunstored key l hl (h ▸ hp')
          have hfind : (s.session q).pdrs.find? (fun p => (s.pdr p).pdrId == i) = some p := hp
          obtain ⟨a, l₁, l₂, hl₁, ha, hsplit, herase⟩ :=
            List.exists_of_eraseP (List.mem_of_find?_eq_some hfind) (List.find?_some hfind)
          have hap : a = p := by
            rw [hsplit, List.find?_append, List.find?_eq_none.mpr (by simpa using hl₁)] at hfind
            simpa [ha] using hfind
          change p' ∈ (s.session q).pdrs.eraseP fun p => (s.pdr p).pdrId == i
          rw [herase]
          rw [hsplit] at hmem
          rcases List.mem_append.mp hmem with h | h
          · exact List.mem_append_left _ h
          · rcases List.mem_cons.mp h with rfl | h
            · exact absurd hap hne
            · exact List.mem_append_right _ h
        · rwa [modifySession_session_of_ne _ _ _ _ hqr]
      · intro seid q hq p' hp' key hkey
        exact hs.indexed seid q hq p' (hsub hp') key hkey
      · intro seid q hq
        refine ⟨?_, (hs.seid seid q hq).2⟩
        by_cases hqr : q = r
        · subst hqr
          rw [modifySession_session_self]
          exact (hs.seid seid q hq).1
        · rw [modifySession_session_of_ne _ _ _ _ hqr]
          exact (hs.seid seid q hq).1
      · intro seid q hq p' hp'
        exact hs.own seid q hq p' (hsub hp')

/-- **A PDR that is changed in place**: its key must be one it is stored under. -/
theorem updatePdr (hs : IndexInv live s) {p : ℕ} {u : UpdatePdr} (hstay : KeyStays s p u) :
    IndexInv live (s.modifyPdr p fun pdr => pdr.update u) := by
  have hseid : ∀ q, ((s.modifyPdr p fun pdr => pdr.update u).pdr q).localSeid =
      (s.pdr q).localSeid := by
    intro q
    by_cases hq : q = p
    · subst hq
      rw [modifyPdr_pdr_self]
      rfl
    · rw [modifyPdr_pdr_of_ne _ _ _ _ hq]
  constructor
  · intro key l q hl hq
    rw [hseid]
    exact hs.stored key l q hl hq
  · intro seid q hq p' hp' key hkey
    by_cases hpp : p' = p
    · subst hpp
      rw [modifyPdr_pdr_self] at hkey
      exact hstay key hkey
    · rw [modifyPdr_pdr_of_ne _ _ _ _ hpp] at hkey
      exact hs.indexed seid q hq p' hp' key hkey
  · exact hs.seid
  · intro seid q hq p' hp'
    rw [hseid]
    exact hs.own seid q hq p' hp'

/-- **A session that is cleaned up** leaves the live ones. -/
theorem cleanup (hs : IndexInv live s) (hr : live seid₀ = some r)
    (hcut : CleanCut s r) :
    IndexInv (Function.update live seid₀ none) (s.cleanup r) := by
  have hlive : ∀ {seid q}, Function.update live seid₀ none seid = some q →
      live seid = some q ∧ q ≠ r := by
    intro seid q hq
    obtain ⟨hq, hseid⟩ := update_none_eq_some.mp hq
    exact ⟨hq, fun h => hseid (hs.live_unique hq (h ▸ hr))⟩
  have hsession : ∀ {q}, q ≠ r → (s.cleanup r).session q = s.session q := by
    intro q hq
    rw [cleanup_eq, modifySession_session_of_ne _ _ _ _ hq]
    rfl
  have hpdr : ∀ q, (s.cleanup r).pdr q = s.pdr q := by
    intro q
    rw [cleanup_eq]
    rfl
  have htable : ∀ key, (s.cleanup r).pdrTable key =
      if key ∈ s.sessionKeys r then none else s.pdrTable key := by
    intro key
    rw [cleanup_eq]
    rfl
  have hnext : (s.cleanup r).sessions.next = s.sessions.next ∧
      (s.cleanup r).pdrs.next = s.pdrs.next := by
    rw [cleanup_eq]
    exact ⟨rfl, rfl⟩
  constructor
  · intro key l p hl hp
    rw [htable] at hl
    obtain ⟨hkey, hl⟩ := Option.ite_none_left_eq_some.mp hl
    obtain ⟨q, hq, hmem⟩ := hs.stored key l p hl hp
    have hqr : q ≠ r := fun h => hkey (hcut.only key l p hl hp (h ▸ hmem))
    have hseid : (s.pdr p).localSeid ≠ seid₀ := fun h => by
      rw [h, hr] at hq
      exact hqr (Option.some.inj hq).symm
    exact ⟨q, by rw [hpdr, Function.update_of_ne hseid, hq], by rwa [hsession hqr]⟩
  · intro seid q hq p hp key hkey
    obtain ⟨hq, hqr⟩ := hlive hq
    rw [hsession hqr] at hp
    rw [hpdr] at hkey
    obtain ⟨l, hl, hpl⟩ := hs.indexed seid q hq p hp key hkey
    refine ⟨l, ?_, hpl⟩
    rw [htable, if_neg, hl]
    intro hkeys
    have hpr := hcut.alone key hkeys l hl p hpl
    have h₁ := (hs.own seid q hq p hp).1
    have h₂ := (hs.own seid₀ r hr p hpr).1
    rw [← h₁, h₂, hr] at hq
    exact hqr (Option.some.inj hq).symm
  · intro seid q hq
    obtain ⟨hq, hqr⟩ := hlive hq
    rw [hsession hqr, hnext.1]
    exact hs.seid seid q hq
  · intro seid q hq p hp
    obtain ⟨hq, hqr⟩ := hlive hq
    rw [hsession hqr] at hp
    rw [hpdr, hnext.2]
    exact hs.own seid q hq p hp

/-! ## The loops -/

section

variable (cfg : UpfCfg) (a : PfcpResponse)

theorem createFars (hs : IndexInv live s) (l : List CreateFar) :
    IndexInv live (PfcpSwitch.createFars r l (s, a)).1 :=
  createFars_invariant r a (fun _ hs _ _ => hs.addFar r _) hs

theorem createPdrs (hs : IndexInv live s) (hr : live seid₀ = some r) {fars : List CreateFar}
    {l : List CreatePdr} (b : Bool) (hc : CreatesIndexed cfg r fars l s) :
    IndexInv live (PfcpSwitch.createPdrs cfg r fars b l (s, a)).1 := by
  induction l generalizing s a with
  | nil => exact hs
  | cons c l ih =>
    unfold PfcpSwitch.createPdrs
    cases hfar : checkFarId fars c with
    | error e => exact hs
    | ok u =>
      dsimp only
      cases hx : checkCreatePdr c with
      | error e =>
        rw [(createPdr_eq cfg r c s).1 e hx]
        exact hs
      | ok x =>
        obtain ⟨fteid, heq⟩ := (createPdr_eq cfg r c s).2 x hx
        rw [heq]
        obtain ⟨hins, hrest⟩ := hc hfar x hx
        have hgen : IndexInv live { s with teidN3Generator := teidsAfter s.teidN3Generator x } :=
          hs.congr rfl rfl rfl fun _ => ⟨rfl, rfl⟩
        exact ih _ (hgen.addPdr hr (pdrFor_key cfg c hx _ _) (pdrFor_localSeid ..) hins) hrest

theorem removePdrs (hs : IndexInv live s) {l : List (Option UInt16)} (hc : RemovesIndexed r l s) :
    IndexInv live (PfcpSwitch.removePdrs r l (s, a)).1 := by
  unfold PfcpSwitch.removePdrs
  induction l generalizing s a with
  | nil => exact hs
  | cons id l ih =>
    unfold removeRules
    unfold RemovesIndexed at hc
    cases heq : s.removeRule pdrKind r id with
    | ok s' =>
      rw [heq] at hc
      exact ih a (hs.removePdr hc.1 heq) hc.2
    | error e =>
      rw [heq] at hc
      dsimp only at hc ⊢
      split_ifs with he
      · exact hs
      · exact ih _ hs (hc he)

theorem removeFars (hs : IndexInv live s) (l : List (Option UInt32)) :
    IndexInv live (PfcpSwitch.removeFars r l (s, a)).1 := by
  refine removeRules_invariant r a farKind ?_ hs
  intro s₁ s₂ hs id _ h
  obtain ⟨l', rfl⟩ := removeRule_ok h
  exact hs.modifySession r fun _ => ⟨rfl, rfl⟩

theorem updatePdrs (hs : IndexInv live s) {l : List UpdatePdr} (hc : UpdatesIndexed r l s) :
    IndexInv live (PfcpSwitch.updatePdrs r l (s, a)).1 := by
  unfold PfcpSwitch.updatePdrs
  induction l generalizing s a with
  | nil => exact hs
  | cons u l ih =>
    unfold updateRules updateRule
    unfold UpdatesIndexed at hc
    cases heq : s.getRule pdrKind r u.pdrId with
    | none =>
      rw [heq] at hc
      exact ih _ hs hc
    | some p =>
      rw [heq] at hc
      exact ih a (hs.updatePdr hc.1) hc.2

theorem updateFars (hs : IndexInv live s) (l : List UpdateFar) :
    IndexInv live (PfcpSwitch.updateFars r l (s, a)).1 := by
  refine updateRules_invariant r a farKind ?_ hs
  intro s₁ s₂ hs u _ h
  obtain ⟨p, -, rfl⟩ := Option.map_eq_some_iff.mp h
  exact hs.congr rfl rfl rfl fun _ => ⟨rfl, rfl⟩

theorem modifyRules (hs : IndexInv live s) (hr : live seid₀ = some r) {req : ModificationRequest}
    (hc : ModifyIndexed cfg r req (s, a)) :
    IndexInv live (PfcpSwitch.modifyRules cfg r req (s, a)).1 := by
  obtain ⟨hremove, hcreate, hupdate⟩ := hc
  unfold PfcpSwitch.modifyRules
  refine ifAccepted_invariant (fun hacc h => (h.updatePdrs _ (hupdate hacc)).updateFars _ _) ?_
  refine ifAccepted_invariant (fun hacc h => h.createPdrs cfg _ hr true (hcreate hacc)) ?_
  refine ifAccepted_invariant (fun _ h => h.createFars _ _) ?_
  refine ifAccepted_invariant (fun _ h => h.removeFars _ _) ?_
  exact hs.removePdrs a hremove

end

end IndexInv

/-! ## The handlers -/

theorem checkFarId_error {fars : List CreateFar} {c : CreatePdr} {e : Refusal}
    (h : checkFarId fars c = .error e) : e.cause ≠ .requestAccepted := by
  unfold checkFarId at h
  split at h
  · cases h
    decide
  · split_ifs at h
    cases h
    decide

theorem checkCreatePdr_error {c : CreatePdr} {e : Refusal} (h : checkCreatePdr c = .error e) :
    e.cause ≠ .requestAccepted := by
  unfold checkCreatePdr at h
  repeat' split at h
  all_goals cases h
  all_goals decide

theorem createPdrs_cause (cfg : UpfCfg) (r : ℕ) (fars : List CreateFar) (b : Bool) (l : List CreatePdr)
    (s : PfcpSwitch) (a : PfcpResponse) (ha : a.cause = .requestAccepted) :
    (createPdrs cfg r fars b l (s, a)).2.cause = .requestAccepted ↔
      ∀ c ∈ l, checkFarId fars c = .ok () ∧ ∃ x, checkCreatePdr c = .ok x := by
  induction l generalizing s a with
  | nil => simpa [createPdrs] using ha
  | cons c l ih =>
    unfold createPdrs
    rw [List.forall_mem_cons]
    cases hfar : checkFarId fars c with
    | error e => exact iff_of_false (checkFarId_error hfar) (by simp)
    | ok u =>
      dsimp only
      cases hx : checkCreatePdr c with
      | error e =>
        rw [(createPdr_eq cfg r c s).1 e hx]
        exact iff_of_false (checkCreatePdr_error hx) (by simp)
      | ok x =>
        obtain ⟨fteid, heq⟩ := (createPdr_eq cfg r c s).2 x hx
        rw [heq]
        dsimp only
        refine (ih _ _ ?_).trans ?_
        · exact ha
        · simp

theorem establishRules_cause (cfg : UpfCfg) (r : ℕ) (req : EstablishmentRequest) (s : PfcpSwitch) :
    (establishRules cfg r req s).2.cause = .requestAccepted ↔ RulesPass req := by
  obtain ⟨-, -, -, -, -, hall, hnot⟩ := createFars_spec (r := r) req.createFars s .accepted
  unfold establishRules ifAccepted RulesPass
  by_cases h : ∀ c ∈ req.createFars, checkCreateFar c = .ok ()
  · rw [if_pos (by rw [hall h]; rfl)]
    refine (createPdrs_cause cfg r _ _ _ _ _ (by rw [hall h]; rfl)).trans ?_
    exact ⟨fun hp => ⟨h, hp⟩, fun hp => hp.2⟩
  · rw [if_neg (hnot h)]
    exact iff_of_false (hnot h) fun hp => h hp.1

theorem nextSeid_fresh {s : PfcpSwitch} (hgen : s.seidGenerator + 1 < 2 ^ 64)
    (hgiven : ∀ seid r, s.upSeid2pfcpSessions seid = some r → seid.toNat ≤ s.seidGenerator) :
    s.upSeid2pfcpSessions s.nextSeid = none ∧ s.nextSeid.toNat = s.seidGenerator + 1 := by
  have hnat : s.nextSeid.toNat = s.seidGenerator + 1 := by
    unfold PfcpSwitch.nextSeid
    rw [UInt64.toNat_ofNat']
    omega
  refine ⟨Option.eq_none_iff_forall_ne_some.mpr fun r hr => ?_, hnat⟩
  have := hgiven _ _ hr
  omega

/-- The index of the switch, with the SEIDs that were given. -/
structure SwitchInv (s : PfcpSwitch) : Prop where
  index : IndexInv s.upSeid2pfcpSessions s
  given : ∀ seid r, s.upSeid2pfcpSessions seid = some r → seid.toNat ≤ s.seidGenerator

namespace SwitchInv

variable {s : PfcpSwitch} {r : ℕ}

theorem ruleIndex (hs : SwitchInv s) : RuleIndex s := ⟨hs.index.stored, hs.index.indexed⟩

theorem init : SwitchInv .init where
  index := by constructor <;> simp [PfcpSwitch.init]
  given := by simp [PfcpSwitch.init]

theorem newSession (hs : SwitchInv s) (hgen : s.seidGenerator + 1 < 2 ^ 64) (fseid : Fseid) :
    IndexInv (Function.update s.upSeid2pfcpSessions s.nextSeid (some s.sessions.next))
      (s.newSession fseid) := by
  obtain ⟨hfresh, -⟩ := nextSeid_fresh hgen hs.given
  have hself : (s.newSession fseid).session s.sessions.next = ⟨fseid, s.nextSeid, [], []⟩ :=
    Heap.alloc_cell_next ..
  have hold : ∀ {r}, r < s.sessions.next → (s.newSession fseid).session r = s.session r :=
    fun hr => Heap.alloc_cell_of_ne _ _ hr.ne
  have hcases : ∀ {seid r},
      Function.update s.upSeid2pfcpSessions s.nextSeid (some s.sessions.next) seid = some r →
      seid = s.nextSeid ∧ r = s.sessions.next ∨
        s.upSeid2pfcpSessions seid = some r ∧ r < s.sessions.next := by
    intro seid r hr
    rcases update_some_eq_some.mp hr with ⟨hseid, hr⟩ | ⟨-, hr⟩
    · exact .inl ⟨hseid, hr.symm⟩
    · exact .inr ⟨hr, (hs.index.seid seid r hr).2⟩
  have hpdrs : ∀ {seid r p},
      Function.update s.upSeid2pfcpSessions s.nextSeid (some s.sessions.next) seid = some r →
      p ∈ ((s.newSession fseid).session r).pdrs →
      s.upSeid2pfcpSessions seid = some r ∧ p ∈ (s.session r).pdrs := by
    intro seid r p hr hp
    rcases hcases hr with ⟨-, rfl⟩ | ⟨hr, hlt⟩
    · rw [hself] at hp
      cases hp
    · exact ⟨hr, hold hlt ▸ hp⟩
  constructor
  · intro key l p hl hp
    obtain ⟨r, hr, hmem⟩ := hs.index.stored key l p hl hp
    have hne : (s.pdr p).localSeid ≠ s.nextSeid := fun h => by
      rw [h, hfresh] at hr
      cases hr
    exact ⟨r, (Function.update_of_ne hne ..).trans hr,
      by rwa [hold (hs.index.seid _ r hr).2]⟩
  · intro seid r hr p hp key hkey
    obtain ⟨hr, hp⟩ := hpdrs hr hp
    exact hs.index.indexed seid r hr p hp key hkey
  · intro seid r hr
    rcases hcases hr with ⟨rfl, rfl⟩ | ⟨hr, hlt⟩
    · exact ⟨by rw [hself], Nat.lt_succ_self _⟩
    · rw [hold hlt]
      exact ⟨(hs.index.seid seid r hr).1, hlt.trans (Nat.lt_succ_self _)⟩
  · intro seid r hr p hp
    obtain ⟨hr, hp⟩ := hpdrs hr hp
    exact hs.index.own seid r hr p hp

variable {cfg : UpfCfg} {req : EstablishmentRequest}

theorem establishment_accepted (hs : SwitchInv s) {fseid : Fseid}
    (hgen : s.seidGenerator + 1 < 2 ^ 64)
    (hc : CreatesIndexed cfg s.sessions.next req.createFars req.createPdrs
      (createFars s.sessions.next req.createFars (s.newSession fseid, .accepted)).1) :
    SwitchInv (storeSession cfg s.sessions.next fseid
      (establishRules cfg s.sessions.next req (s.newSession fseid))).1 := by
  obtain ⟨hfresh, hnat⟩ := nextSeid_fresh hgen hs.given
  have hregisters := establishRules_registers cfg (s.newSession fseid) s.sessions.next req
  have hindex : IndexInv (Function.update s.upSeid2pfcpSessions s.nextSeid (some s.sessions.next))
      (establishRules cfg s.sessions.next req (s.newSession fseid)).1 := by
    unfold establishRules
    refine ifAccepted_invariant (fun _ h => h.createPdrs cfg _ (Function.update_self ..) false hc) ?_
    exact (hs.newSession hgen fseid).createFars _ _
  generalize establishRules cfg s.sessions.next req (s.newSession fseid) = x at *
  obtain ⟨hup, -, hseids, -, hkeys⟩ := registers_eq hregisters
  have hseid : (x.1.session s.sessions.next).seid = s.nextSeid :=
    (hkeys _).2.trans (congrArg PfcpSession.seid (Heap.alloc_cell_next ..))
  have hlive : insertEntry x.1.upSeid2pfcpSessions s.nextSeid s.sessions.next =
      Function.update s.upSeid2pfcpSessions s.nextSeid (some s.sessions.next) := by
    rw [hup]
    change Function.update s.upSeid2pfcpSessions _ _ = _
    rw [show (s.newSession fseid).upSeid2pfcpSessions = s.upSeid2pfcpSessions from rfl, hfresh]
    rfl
  unfold storeSession
  dsimp only
  rw [hseid]
  constructor
  · change IndexInv (insertEntry x.1.upSeid2pfcpSessions s.nextSeid s.sessions.next) _
    rw [hlive]
    exact hindex.congr rfl rfl rfl fun _ => ⟨rfl, rfl⟩
  · intro seid r hr
    change insertEntry x.1.upSeid2pfcpSessions s.nextSeid s.sessions.next seid = some r at hr
    rw [hlive] at hr
    change seid.toNat ≤ x.1.seidGenerator
    rw [hseids]
    change seid.toNat ≤ s.seidGenerator + 1
    by_cases h : seid = s.nextSeid
    · rw [h, hnat]
    · rw [Function.update_of_ne h] at hr
      exact (hs.given seid r hr).trans (Nat.le_succ _)

theorem establishment_rejected (hs : SwitchInv s) {fseid : Fseid} (hfree : KeysFree req s)
    (hfseid : req.cpFseid = some fseid) (hnone : s.cpFseid2pfcpSessions fseid = none) :
    SwitchInv ((establishRules cfg s.sessions.next req (s.newSession fseid)).1.cleanup
      s.sessions.next) := by
  obtain ⟨hext, -, -⟩ := establishRules_cleanup cfg req fseid s
  have hregisters := registers_eq (establishRules_registers cfg (s.newSession fseid) s.sessions.next req)
  have hclean : ((establishRules cfg s.sessions.next req (s.newSession fseid)).1.cleanup
      s.sessions.next).seidGenerator = s.seidGenerator + 1 ∧
      ((establishRules cfg s.sessions.next req (s.newSession fseid)).1.cleanup
        s.sessions.next).sessions.next = s.sessions.next + 1 := by
    rw [cleanup_eq]
    exact ⟨hregisters.2.2.1, hregisters.2.2.2.1⟩
  have htab := pdrTable_cleanup_of_keysFree cfg hfree hfseid hnone
  generalize (establishRules cfg s.sessions.next req (s.newSession fseid)).1.cleanup
    s.sessions.next = t at *
  have hup : t.upSeid2pfcpSessions = s.upSeid2pfcpSessions := hext.upSeid2pfcpSessions
  have hpdr : ∀ p < s.pdrs.next, t.pdr p = s.pdr p := hext.pdrs
  have hsession : ∀ {seid r}, s.upSeid2pfcpSessions seid = some r → t.session r = s.session r := by
    intro seid r hr
    have hlt := (hs.index.seid seid r hr).2
    exact (hext.sessions r hlt.ne).trans (Heap.alloc_cell_of_ne _ _ hlt.ne)
  refine ⟨?_, fun seid r hr => ?_⟩
  · rw [hup]
    constructor
    · intro key l p hl hp
      rw [htab] at hl
      obtain ⟨r, hr, hmem⟩ := hs.index.stored key l p hl hp
      exact ⟨r, by rw [hpdr p (hs.index.lt_next hl hp), hr], by rwa [hsession hr]⟩
    · intro seid r hr p hp key hkey
      rw [hsession hr] at hp
      rw [hpdr p (hs.index.own seid r hr p hp).2] at hkey
      rw [htab]
      exact hs.index.indexed seid r hr p hp key hkey
    · intro seid r hr
      rw [hsession hr, hclean.2]
      exact ⟨(hs.index.seid seid r hr).1, Nat.lt_succ_of_lt (hs.index.seid seid r hr).2⟩
    · intro seid r hr p hp
      rw [hsession hr] at hp
      obtain ⟨hseid, hlt⟩ := hs.index.own seid r hr p hp
      exact ⟨by rw [hpdr p hlt, hseid], hlt.trans_le hext.pdrs_next⟩
  · rw [hup] at hr
    rw [hclean.1]
    exact (hs.given seid r hr).trans (Nat.le_succ _)

/-- **One request.** -/
theorem switchStep (hs : SwitchInv s) (e : SessionRequest) (hc : KeepsIndex cfg s e) :
    SwitchInv (Upf.switchStep cfg s e) := by
  cases e with
  | establishment req =>
    unfold Upf.switchStep handlePfcpSessionEstablishmentRequest
    dsimp only
    cases hfseid : req.cpFseid with
    | none => exact hs
    | some fseid =>
      dsimp only
      split_ifs with hexist hacc
      · exact hs
      · have hnone : s.cpFseid2pfcpSessions fseid = none := by
          simpa [Option.isSome_iff_ne_none] using hexist
        obtain ⟨hgen, hcreates⟩ := hc.2 ((establishRules_cause cfg _ req _).mp hacc) fseid hfseid hnone
        exact hs.establishment_accepted hgen hcreates
      · have hnone : s.cpFseid2pfcpSessions fseid = none := by
          simpa [Option.isSome_iff_ne_none] using hexist
        exact hs.establishment_rejected
          (hc.1 fun h => hacc ((establishRules_cause cfg _ req _).mpr h)) hfseid hnone
  | modification req =>
    unfold Upf.switchStep handlePfcpSessionModificationRequest
    dsimp only
    cases hr : s.upSeid2pfcpSessions req.seid with
    | none => exact hs
    | some r =>
      have htake : IndexInv s.upSeid2pfcpSessions (s.takeFseid r req.cpFseid) := by
        unfold takeFseid
        split
        · exact hs.index
        · exact hs.index.modifySession r fun _ => ⟨rfl, rfl⟩
      have hregisters : (s.takeFseid r req.cpFseid).upSeid2pfcpSessions = s.upSeid2pfcpSessions ∧
          (s.takeFseid r req.cpFseid).seidGenerator = s.seidGenerator := by
        unfold takeFseid
        split <;> exact ⟨rfl, rfl⟩
      have hmodify := htake.modifyRules cfg _ hr (hc r hr)
      obtain ⟨hup, -, hgen, -, -⟩ := registers_eq (modifyRules_registers cfg r req
        (s.takeFseid r req.cpFseid,
          { PfcpResponse.accepted with seid := ((s.takeFseid r req.cpFseid).session r).cpFseid.seid }))
      dsimp only at hup hgen ⊢
      refine ⟨?_, fun seid q hq => ?_⟩
      · rw [hup, hregisters.1]
        exact hmodify
      · rw [hup, hregisters.1] at hq
        rw [hgen, hregisters.2]
        exact hs.given seid q hq
  | deletion seid =>
    unfold Upf.switchStep handlePfcpSessionDeletionRequest
    dsimp only
    cases hr : s.upSeid2pfcpSessions seid with
    | none => exact hs
    | some r =>
      have hclean := hs.index.cleanup hr (hc r hr)
      have hkeep : (s.cleanup r).upSeid2pfcpSessions = s.upSeid2pfcpSessions ∧
          (s.cleanup r).seidGenerator = s.seidGenerator ∧ ((s.cleanup r).session r).seid = seid := by
        rw [cleanup_eq, modifySession_session_self]
        exact ⟨rfl, rfl, (hs.index.seid seid r hr).1⟩
      have hup : (s.removePfcpSession r).upSeid2pfcpSessions =
          Function.update s.upSeid2pfcpSessions seid none := by
        unfold removePfcpSession
        dsimp only
        rw [hkeep.1, hkeep.2.2]
      dsimp only
      refine ⟨?_, fun seid' q hq => ?_⟩
      · rw [hup]
        exact hclean.congr rfl rfl rfl fun _ => ⟨rfl, rfl⟩
      · rw [hup] at hq
        change seid'.toNat ≤ (s.cleanup r).seidGenerator
        rw [hkeep.2.1]
        exact hs.given seid' q (update_none_eq_some.mp hq).1

end SwitchInv

/-! ## Runs -/

/-- **In every run whose requests keep the index, the lookup tables and the sessions agree.** -/
theorem ruleIndex_run (cfg : UpfCfg) (reqs : List SessionRequest)
    (h : Along (switchStep cfg) (KeepsIndex cfg) .init reqs) :
    RuleIndex (run (switchStep cfg) .init reqs) :=
  (Along.invariant (I := SwitchInv) (fun _ e hs hc => hs.switchStep e hc) SwitchInv.init h).ruleIndex

/-- One session with an ACCESS PDR, and its deletion. -/
theorem ruleIndex_run_one :
    Along (switchStep exampleCfg) (KeepsIndex exampleCfg) .init
        [.establishment (establish 1 [accessPdr 1 10 7]), .deletion 1] ∧
      RuleIndex (run (switchStep exampleCfg) .init
        [.establishment (establish 1 [accessPdr 1 10 7]), .deletion 1]) := by
  have h : Along (switchStep exampleCfg) (KeepsIndex exampleCfg) .init
      [.establishment (establish 1 [accessPdr 1 10 7]), .deletion 1] := by
    refine ⟨⟨fun hnot => (hnot ⟨by decide, ?_⟩).elim, fun _ fseid _ _ => ⟨by decide, ?_⟩⟩, ?_, trivial⟩
    · exact List.forall_mem_singleton.mpr ⟨by decide, _, rfl⟩
    · exact fun _ x hx => ⟨fun l hl => (nomatch hl), trivial⟩
    · intro r hr
      obtain rfl : r = 0 := (Option.some.inj hr).symm
      have htable : ∀ key l, (switchStep exampleCfg .init
          (.establishment (establish 1 [accessPdr 1 10 7]))).pdrTable key = some l →
          key = .n3Teid 7 ∧ l = [0] := by
        intro key l hl
        by_cases hkey : key = .n3Teid 7
        · subst hkey
          exact ⟨rfl, (Option.some.inj hl).symm⟩
        · have : (Function.update (fun _ => none) (.n3Teid 7) (some [0]) : LookupKey → _) key = some l := hl
          rw [Function.update_of_ne hkey] at this
          cases this
      refine ⟨fun key _ l hl p hp => ?_, fun key l p hl _ _ => ?_⟩
      · obtain ⟨-, rfl⟩ := htable key l hl
        exact hp
      · obtain ⟨rfl, -⟩ := htable key l hl
        exact List.mem_singleton.mpr rfl
  exact ⟨h, ruleIndex_run exampleCfg _ h⟩

/-- **Two runs that break the index**: a PDR that is removed stays in the table, and a second CORE PDR
of the same precedence for a UE address never comes into it. -/
theorem not_ruleIndex_run :
    ¬ RuleIndex (run (switchStep exampleCfg) .init
        [.establishment (establish 1 [corePdr 1 10 5]),
          .modification ⟨1, none, [some 1], [], [], [], [], []⟩]) ∧
      ¬ RuleIndex (run (switchStep exampleCfg) .init
        [.establishment (establish 1 [corePdr 1 10 5]),
          .establishment (establish 2 [corePdr 1 10 5])]) := by
  constructor
  · intro h
    obtain ⟨r, hr, hmem⟩ := h.stored (.ueIpv4 (be32toh 5)) [0] 0 rfl (by decide)
    obtain rfl : r = 0 := (Option.some.inj hr).symm
    exact absurd hmem (by decide)
  · intro h
    obtain ⟨l, hl, hmem⟩ := h.indexed 2 1 rfl 1 (by decide) (.ueIpv4 (be32toh 5)) rfl
    obtain rfl : l = [0] := (Option.some.inj hl).symm
    exact absurd hmem (by decide)

end Oai5g.Upf
