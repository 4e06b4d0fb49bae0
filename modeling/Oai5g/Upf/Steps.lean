import Oai5g.Upf.Switch

/-!
# What the operations on a session change

* `createPdr_eq`: a PDR that is created, with the key it is stored under (`PfcpSwitch.keyFor`).
* The rules of the loops: what one operation keeps, the loop keeps (`createPdrs_invariant` and the like).
* `registers`: what no operation on rules changes; `modifyRules_registers`.
* `cleanup_eq`: the keys a clean-up erases.
-/

namespace Oai5g.Upf

namespace PfcpSwitch

section

variable (s : PfcpSwitch) (r q p : ℕ) (f : PfcpSession → PfcpSession) (g : PfcpPdr → PfcpPdr)
  (h : PfcpFar → PfcpFar) (key : LookupKey) (pdr : PfcpPdr) (far : PfcpFar)

@[simp] theorem modifySession_pdr : (s.modifySession r f).pdr p = s.pdr p := rfl
@[simp] theorem modifySession_far : (s.modifySession r f).far p = s.far p := rfl
@[simp] theorem modifySession_pdrTable : (s.modifySession r f).pdrTable = s.pdrTable := rfl

@[simp] theorem modifySession_session_self : (s.modifySession r f).session r = f (s.session r) :=
  Heap.modify_cell_self ..

theorem modifySession_session_of_ne (hq : q ≠ r) : (s.modifySession r f).session q = s.session q :=
  Heap.modify_cell_of_ne _ _ _ hq

@[simp] theorem modifyPdr_session : (s.modifyPdr p g).session r = s.session r := rfl
@[simp] theorem modifyPdr_far : (s.modifyPdr p g).far r = s.far r := rfl
@[simp] theorem modifyPdr_pdrTable : (s.modifyPdr p g).pdrTable = s.pdrTable := rfl
@[simp] theorem modifyPdr_pdr_self : (s.modifyPdr p g).pdr p = g (s.pdr p) := Heap.modify_cell_self ..

theorem modifyPdr_pdr_of_ne (hq : q ≠ p) : (s.modifyPdr p g).pdr q = s.pdr q :=
  Heap.modify_cell_of_ne _ _ _ hq

@[simp] theorem modifyFar_session : (s.modifyFar p h).session r = s.session r := rfl
@[simp] theorem modifyFar_pdr : (s.modifyFar p h).pdr q = s.pdr q := rfl
@[simp] theorem modifyFar_pdrTable : (s.modifyFar p h).pdrTable = s.pdrTable := rfl
@[simp] theorem modifyFar_far_self : (s.modifyFar p h).far p = h (s.far p) := Heap.modify_cell_self ..

@[simp] theorem addFar_pdr : (s.addFar r far).pdr p = s.pdr p := rfl
@[simp] theorem addFar_pdrTable : (s.addFar r far).pdrTable = s.pdrTable := rfl

@[simp] theorem addFar_session_self :
    (s.addFar r far).session r = (s.session r).setFars ((s.session r).fars ++ [s.fars.next]) :=
  Heap.modify_cell_self s.sessions r fun session => session.setFars (session.fars ++ [s.fars.next])

theorem addFar_session_of_ne (hq : q ≠ r) : (s.addFar r far).session q = s.session q :=
  Heap.modify_cell_of_ne s.sessions r
    (fun session => session.setFars (session.fars ++ [s.fars.next])) hq

theorem addFar_far_of_ne (hp : p ≠ s.fars.next) : (s.addFar r far).far p = s.far p :=
  Heap.alloc_cell_of_ne _ _ hp

@[simp] theorem addPdr_far : (s.addPdr r key pdr).far p = s.far p := rfl
@[simp] theorem addPdr_pdrs_next : (s.addPdr r key pdr).pdrs.next = s.pdrs.next + 1 := rfl

@[simp] theorem addPdr_session_self :
    (s.addPdr r key pdr).session r = (s.session r).setPdrs ((s.session r).pdrs ++ [s.pdrs.next]) :=
  Heap.modify_cell_self s.sessions r fun session => session.setPdrs (session.pdrs ++ [s.pdrs.next])

theorem addPdr_session_of_ne (hq : q ≠ r) : (s.addPdr r key pdr).session q = s.session q :=
  Heap.modify_cell_of_ne s.sessions r
    (fun session => session.setPdrs (session.pdrs ++ [s.pdrs.next])) hq

@[simp] theorem addPdr_pdr_next : (s.addPdr r key pdr).pdr s.pdrs.next = pdr :=
  Heap.alloc_cell_next ..

theorem addPdr_pdr_of_ne (hp : p ≠ s.pdrs.next) : (s.addPdr r key pdr).pdr p = s.pdr p :=
  Heap.alloc_cell_of_ne _ _ hp

theorem addPdr_pdrTable_of_ne {k : LookupKey} (hk : k ≠ key) :
    (s.addPdr r key pdr).pdrTable k = s.pdrTable k := Function.update_of_ne hk ..

theorem addPdr_pdrTable_of_none (ht : s.pdrTable key = none) :
    (s.addPdr r key pdr).pdrTable key = some [s.pdrs.next] := by
  refine (Function.update_self ..).trans ?_
  dsimp only
  rw [ht]

theorem addPdr_pdrTable_of_some {l : List ℕ} (ht : s.pdrTable key = some l) :
    (s.addPdr r key pdr).pdrTable key =
      some (({ s with pdrs := (s.pdrs.alloc pdr).1 } : PfcpSwitch).insertPdr s.pdrs.next l) := by
  refine (Function.update_self ..).trans ?_
  dsimp only
  rw [ht]

theorem removePfcpPdrs_pdrTable (k : LookupKey) :
    (s.removePfcpPdrs key).pdrTable k = if k = key then none else s.pdrTable k := by
  unfold removePfcpPdrs
  by_cases hk : k = key
  · subst hk
    simp
  · simp [hk]

end

/-! ## Creating a PDR -/

/-- The key a Create PDR that passes the checks is stored under, after `n` TEIDs were given. -/
def keyFor (n : ℕ) : Fteid ⊕ UInt32 → LookupKey
  | .inl fteid => .n3Teid (if fteid.ch then UInt32.ofNat (n + 1) else fteid.teid)
  | .inr ueIp => .ueIpv4 ueIp

/-- How many TEIDs are given afterwards. -/
def teidsAfter (n : ℕ) : Fteid ⊕ UInt32 → ℕ
  | .inl fteid => if fteid.ch then n + 1 else n
  | .inr _ => n

section

variable (cfg : UpfCfg) (r : ℕ) (c : CreatePdr) (s : PfcpSwitch)

theorem checkCreatePdr_inl {fteid : Fteid} (h : checkCreatePdr c = .ok (.inl fteid)) :
    ∃ pdi, c.pdi = some pdi ∧ pdi.sourceInterface = some INTERFACE_VALUE_ACCESS ∧
      pdi.localFteid = some fteid := by
  unfold checkCreatePdr at h
  split at h
  · cases h
  · cases h
  · cases h
  · rename_i pdi _ _ hpdi _
    split at h
    · cases h
    · rename_i source hsource
      split_ifs at h with _ hacc
      · split at h
        · cases h
        · rename_i f hf
          cases h
          exact ⟨pdi, hpdi, by rw [hsource, hacc], hf⟩
      · split at h
        · cases h
        · split_ifs at h
          cases h

theorem checkCreatePdr_inr {ueIp : UInt32} (h : checkCreatePdr c = .ok (.inr ueIp)) :
    ∃ pdi ue, c.pdi = some pdi ∧ pdi.sourceInterface = some INTERFACE_VALUE_CORE ∧
      pdi.ueIpAddress = some ue ∧ ue.v4 = true ∧ be32toh ue.ipv4Address = ueIp := by
  unfold checkCreatePdr at h
  split at h
  · cases h
  · cases h
  · cases h
  · rename_i pdi _ _ hpdi _
    split at h
    · cases h
    · rename_i source hsource
      split_ifs at h with _ hacc hcore
      · split at h <;> cases h
      · split at h
        · cases h
        · rename_i ue hue
          split_ifs at h with hv4
          cases h
          exact ⟨pdi, ue, hpdi, by rw [hsource, hcore], hue, hv4, rfl⟩

/-- The PDR a Create PDR makes, after `n` TEIDs were given. -/
def pdrFor (n : ℕ) (seid : UInt64) : Fteid ⊕ UInt32 → PfcpPdr
  | .inl fteid =>
    let pdr := PfcpPdr.ofCreate c seid
    if fteid.ch then
      pdr.setLocalFteid (generateFteidN3 cfg { init with teidN3Generator := n })
    else pdr
  | .inr _ => .ofCreate c seid

/-- **A PDR is created exactly when the checks pass**: it is stored under its key and added to the
session. -/
theorem createPdr_eq :
    (∀ e, checkCreatePdr c = .error e → s.createPdr cfg r c = .error e) ∧
    ∀ x, checkCreatePdr c = .ok x → ∃ fteid, s.createPdr cfg r c =
      .ok ({ s with teidN3Generator := teidsAfter s.teidN3Generator x }.addPdr r
        (keyFor s.teidN3Generator x) (pdrFor cfg c s.teidN3Generator (s.session r).seid x), fteid) := by
  constructor
  · intro e h
    unfold createPdr
    rw [h]
  · intro x h
    have hgen : generateFteidN3 cfg { init with teidN3Generator := s.teidN3Generator } =
        s.generateFteidN3 cfg := rfl
    unfold createPdr
    rw [h]
    rcases x with fteid | ueIp
    · by_cases hch : fteid.ch
      · refine ⟨s.generateFteidN3 cfg, ?_⟩
        simp only [hch, if_true, keyFor, teidsAfter, pdrFor, hgen]
        congr 4
        unfold generateFteidN3
        split_ifs <;> rfl
      · refine ⟨fteid, ?_⟩
        simp only [hch, keyFor, teidsAfter, pdrFor]
        rfl
    · exact ⟨.zero, rfl⟩

theorem pdrFor_key {x : Fteid ⊕ UInt32} (h : checkCreatePdr c = .ok x) (n : ℕ) (seid : UInt64) :
    (pdrFor cfg c n seid x).key = some (keyFor n x) := by
  rcases x with fteid | ueIp
  · obtain ⟨pdi, hpdi, hsource, hf⟩ := checkCreatePdr_inl c h
    by_cases hch : fteid.ch
    · simp only [pdrFor, hch, if_true, keyFor, PfcpPdr.key, PfcpPdr.setLocalFteid, PfcpPdr.ofCreate,
        hpdi, Option.map_some, Option.bind_some, Pdi.key, hsource, generateFteidN3]
      split_ifs <;> rfl
    · simp [pdrFor, hch, keyFor, PfcpPdr.key, PfcpPdr.ofCreate, hpdi, Pdi.key, hsource, hf]
  · obtain ⟨pdi, ue, hpdi, hsource, hue, hv4, hip⟩ := checkCreatePdr_inr c h
    have hne : INTERFACE_VALUE_CORE ≠ INTERFACE_VALUE_ACCESS := by decide
    simp [pdrFor, keyFor, PfcpPdr.key, PfcpPdr.ofCreate, hpdi, Pdi.key, hsource, hue, hv4, hip, hne]

@[simp] theorem pdrFor_pdrId (n : ℕ) (seid : UInt64) (x : Fteid ⊕ UInt32) :
    (pdrFor cfg c n seid x).pdrId = c.pdrId.getD 0 := by
  rcases x with fteid | ueIp
  · simp only [pdrFor]
    split_ifs <;> rfl
  · rfl

@[simp] theorem pdrFor_localSeid (n : ℕ) (seid : UInt64) (x : Fteid ⊕ UInt32) :
    (pdrFor cfg c n seid x).localSeid = seid := by
  rcases x with fteid | ueIp
  · simp only [pdrFor]
    split_ifs <;> rfl
  · rfl

end

/-! ## The loops -/

section

variable {I : PfcpSwitch → Prop} (cfg : UpfCfg) (r : ℕ) (a : PfcpResponse)

theorem createFars_invariant {l : List CreateFar} {s : PfcpSwitch}
    (h : ∀ s, I s → ∀ c ∈ l, I (s.addFar r (.ofCreate c))) (hs : I s) :
    I (createFars r l (s, a)).1 := by
  induction l generalizing s with
  | nil => exact hs
  | cons c l ih =>
    unfold createFars createFar
    cases checkCreateFar c with
    | error e => exact hs
    | ok u => exact ih (fun s hs c hc => h s hs c (by simp [hc])) (h s hs c (by simp))

theorem removeRules_invariant {ρ α : Type} [DecidableEq α] [Inhabited α] (kind : RuleKind ρ α)
    {l : List (Option α)} {s : PfcpSwitch}
    (h : ∀ s s', I s → ∀ id ∈ l, s.removeRule kind r id = .ok s' → I s') (hs : I s) :
    I (removeRules kind r l (s, a)).1 := by
  induction l generalizing s a with
  | nil => exact hs
  | cons id l ih =>
    have ih' := fun s a hs => @ih a s (fun s s' hs id hid => h s s' hs id (by simp [hid])) hs
    unfold removeRules
    cases heq : s.removeRule kind r id with
    | ok s' => exact ih' s' a (h s s' hs id (by simp) heq)
    | error e =>
      dsimp only
      split_ifs
      · exact hs
      · exact ih' s _ hs

theorem updateRules_invariant {ρ α υ : Type} [DecidableEq α] (kind : RuleKind ρ α) {id : υ → α}
    {apply : ρ → υ → ρ} {missing : PfcpResponse → υ → PfcpResponse} {l : List υ} {s : PfcpSwitch}
    (h : ∀ s s', I s → ∀ u ∈ l, (s.updateRule kind r (id u) fun rule => apply rule u) = some s' → I s')
    (hs : I s) : I (updateRules kind id apply missing r l (s, a)).1 := by
  induction l generalizing s a with
  | nil => exact hs
  | cons u l ih =>
    have ih' := fun s a hs => @ih a s (fun s s' hs u hu => h s s' hs u (by simp [hu])) hs
    unfold updateRules
    cases heq : s.updateRule kind r (id u) fun rule => apply rule u with
    | some s' => exact ih' s' a (h s s' hs u (by simp) heq)
    | none => exact ih' s _ hs

theorem ifAccepted_invariant {f : PfcpSwitch × PfcpResponse → PfcpSwitch × PfcpResponse}
    {x : PfcpSwitch × PfcpResponse} (hf : x.2.cause = .requestAccepted → I x.1 → I (f x).1)
    (hx : I x.1) : I (ifAccepted f x).1 := by
  unfold ifAccepted
  split_ifs with hacc
  · exact hf hacc hx
  · exact hx

end

theorem removeRule_ok {ρ α : Type} [DecidableEq α] {kind : RuleKind ρ α} {r : ℕ} {id : Option α}
    {s s' : PfcpSwitch} (h : s.removeRule kind r id = .ok s') :
    ∃ list : PfcpSession → List ℕ, s' = s.modifySession r fun session =>
      kind.setList session (list session) := by
  unfold removeRule at h
  cases id with
  | none => cases h
  | some i =>
    dsimp only at h
    cases hp : s.getRule kind r i with
    | none =>
      rw [hp] at h
      cases h
    | some p =>
      rw [hp] at h
      cases h
      exact ⟨_, rfl⟩

/-! ## The session registers -/

/-- What the operations on rules leave alone: the two session tables, the SEIDs given, and the keys of
every session. -/
def registers (s : PfcpSwitch) :
    (UInt64 → Option ℕ) × (Fseid → Option ℕ) × ℕ × ℕ × (ℕ → Fseid × UInt64) :=
  (s.upSeid2pfcpSessions, s.cpFseid2pfcpSessions, s.seidGenerator, s.sessions.next,
    fun r => ((s.session r).cpFseid, (s.session r).seid))

theorem registers_eq {s s' : PfcpSwitch} (h : s'.registers = s.registers) :
    s'.upSeid2pfcpSessions = s.upSeid2pfcpSessions ∧
    s'.cpFseid2pfcpSessions = s.cpFseid2pfcpSessions ∧ s'.seidGenerator = s.seidGenerator ∧
    s'.sessions.next = s.sessions.next ∧
    ∀ r, (s'.session r).cpFseid = (s.session r).cpFseid ∧ (s'.session r).seid = (s.session r).seid := by
  simp only [registers, Prod.mk.injEq, funext_iff] at h
  obtain ⟨hup, hcp, hgen, hnext, hkeys⟩ := h
  exact ⟨funext hup, funext hcp, hgen, hnext, hkeys⟩

section

variable (cfg : UpfCfg) (s : PfcpSwitch) (r : ℕ) (a : PfcpResponse)

theorem modifySession_registers {f : PfcpSession → PfcpSession}
    (hf : ∀ session, (f session).cpFseid = session.cpFseid ∧ (f session).seid = session.seid) :
    (s.modifySession r f).registers = s.registers := by
  have hkeys : (fun q => (((s.modifySession r f).session q).cpFseid,
      ((s.modifySession r f).session q).seid)) =
      fun q => ((s.session q).cpFseid, (s.session q).seid) := by
    funext q
    by_cases hq : q = r
    · subst hq
      rw [modifySession_session_self, (hf _).1, (hf _).2]
    · rw [modifySession_session_of_ne _ _ _ _ hq]
  unfold registers
  rw [hkeys]
  rfl

theorem addFar_registers (far : PfcpFar) : (s.addFar r far).registers = s.registers :=
  @modifySession_registers { s with fars := (s.fars.alloc far).1 } r
    (fun session => session.setFars (session.fars ++ [s.fars.next])) fun _ => ⟨rfl, rfl⟩

theorem addPdr_registers (key : LookupKey) (pdr : PfcpPdr) :
    (s.addPdr r key pdr).registers = s.registers := by
  refine (modifySession_registers _ _ ?_).trans ?_
  · exact fun _ => ⟨rfl, rfl⟩
  · rfl

theorem createFars_registers (l : List CreateFar) :
    (createFars r l (s, a)).1.registers = s.registers :=
  createFars_invariant (I := fun s' => s'.registers = s.registers) r a
    (fun s' hs _ _ => (addFar_registers s' r _).trans hs) rfl

theorem createPdrs_registers (fars : List CreateFar) (omitZero : Bool) (l : List CreatePdr) :
    (createPdrs cfg r fars omitZero l (s, a)).1.registers = s.registers := by
  induction l generalizing s a with
  | nil => rfl
  | cons c l ih =>
    unfold createPdrs
    cases checkFarId fars c with
    | error e => rfl
    | ok u =>
      dsimp only
      cases hx : checkCreatePdr c with
      | error e =>
        rw [(createPdr_eq cfg r c s).1 e hx]
      | ok x =>
        obtain ⟨fteid, heq⟩ := (createPdr_eq cfg r c s).2 x hx
        rw [heq]
        dsimp only
        rw [ih, addPdr_registers]
        rfl

theorem removeRules_registers {ρ α : Type} [DecidableEq α] [Inhabited α] (kind : RuleKind ρ α)
    (hkind : ∀ session l, (kind.setList session l).cpFseid = session.cpFseid ∧
      (kind.setList session l).seid = session.seid) (l : List (Option α)) :
    (removeRules kind r l (s, a)).1.registers = s.registers := by
  refine removeRules_invariant (I := fun s' => s'.registers = s.registers) r a kind ?_ rfl
  intro s₁ s₂ hs id _ h
  obtain ⟨list, rfl⟩ := removeRule_ok h
  exact (modifySession_registers s₁ r fun session => hkind session _).trans hs

theorem updateRules_registers {ρ α υ : Type} [DecidableEq α] (kind : RuleKind ρ α)
    (hkind : ∀ s p g, (kind.modify s p g).registers = s.registers) {id : υ → α} {apply : ρ → υ → ρ}
    {missing : PfcpResponse → υ → PfcpResponse} (l : List υ) :
    (updateRules kind id apply missing r l (s, a)).1.registers = s.registers := by
  refine updateRules_invariant (I := fun s' => s'.registers = s.registers) r a kind ?_ rfl
  intro s₁ s₂ hs u _ h
  unfold updateRule at h
  obtain ⟨p, -, rfl⟩ := Option.map_eq_some_iff.mp h
  exact (hkind s₁ p _).trans hs

/-- **The loops of a request leave the session registers alone.** -/
theorem modifyRules_registers (req : ModificationRequest) (x : PfcpSwitch × PfcpResponse) :
    (modifyRules cfg r req x).1.registers = x.1.registers := by
  have hup : ∀ {f : PfcpSwitch × PfcpResponse → PfcpSwitch × PfcpResponse}
      {y : PfcpSwitch × PfcpResponse}, (∀ s a, (f (s, a)).1.registers = s.registers) →
      (ifAccepted f y).1.registers = y.1.registers := by
    intro f y hf
    exact ifAccepted_invariant (I := fun s => s.registers = y.1.registers) (fun _ _ => hf y.1 y.2) rfl
  have hremovePdrs := removeRules_registers x.1 r x.2 pdrKind (fun _ _ => ⟨rfl, rfl⟩) req.removePdrs
  have hremoveFars := fun s a => removeRules_registers s r a farKind (fun _ _ => ⟨rfl, rfl⟩) req.removeFars
  have hupdates : ∀ s a, (updateFars r req.updateFars (updatePdrs r req.updatePdrs (s, a))).1.registers =
      s.registers := fun s a =>
    (updateRules_registers _ r _ farKind (fun _ _ _ => rfl) req.updateFars).trans
      (updateRules_registers s r a pdrKind (fun _ _ _ => rfl) req.updatePdrs)
  exact (hup hupdates).trans ((hup fun s a => createPdrs_registers cfg s r a _ _ _).trans
    ((hup fun s a => createFars_registers s r a _).trans ((hup hremoveFars).trans hremovePdrs)))

theorem establishRules_registers (req : EstablishmentRequest) :
    (establishRules cfg r req s).1.registers = s.registers := by
  unfold establishRules
  refine ifAccepted_invariant (I := fun s' => s'.registers = s.registers) (fun _ h => ?_) ?_
  · exact (createPdrs_registers cfg _ r _ _ _ _).trans h
  · exact createFars_registers s r .accepted _

end

/-! ## Cleaning up -/

/-- The keys under which the PDRs of a session are looked for. -/
def sessionKeys (r : ℕ) (s : PfcpSwitch) : List LookupKey :=
  (s.session r).pdrs.filterMap fun p => (s.pdr p).key

section

variable (r : ℕ) (s : PfcpSwitch)

/-- What a clean-up does to the tables. -/
def eraseKeys (keys : List LookupKey) : PfcpSwitch :=
  { s with pdrTable := fun k => if k ∈ keys then none else s.pdrTable k }

theorem eraseKeys_removePfcpPdrs (key : LookupKey) (keys : List LookupKey) :
    (s.removePfcpPdrs key).eraseKeys keys = s.eraseKeys (key :: keys) := by
  have h : (fun k => if k ∈ keys then none else (s.removePfcpPdrs key).pdrTable k) =
      fun k => if k ∈ key :: keys then none else s.pdrTable k := by
    funext k
    rw [removePfcpPdrs_pdrTable]
    by_cases hk : k = key <;> by_cases hkeys : k ∈ keys <;> simp [hk, hkeys]
  unfold eraseKeys
  rw [h]
  rfl

theorem cleanup_eq : s.cleanup r =
    (s.eraseKeys (s.sessionKeys r)).modifySession r fun session => (session.setPdrs []).setFars [] := by
  have hfold : ∀ (l : List ℕ) (t : PfcpSwitch),
      l.foldl erasePdrKey t = t.eraseKeys (l.filterMap fun p => (t.pdr p).key) := by
    intro l
    induction l with
    | nil =>
      intro t
      simp [eraseKeys]
    | cons p l ih =>
      intro t
      rw [List.foldl_cons, ih]
      unfold erasePdrKey
      cases hkey : (t.pdr p).key with
      | none => simp [hkey]
      | some key =>
        simp only [hkey, List.filterMap_cons]
        exact t.eraseKeys_removePfcpPdrs key _
  unfold cleanup
  rw [hfold]
  rfl

end

end PfcpSwitch

end Oai5g.Upf
