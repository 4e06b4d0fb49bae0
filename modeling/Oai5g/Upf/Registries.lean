import Oai5g.Upf.Associations
import Oai5g.Upf.Index

/-!
# The three registries of sessions

* `RegistriesAgree`: the tables by SEID and by CP F-SEID and the associations know the same sessions.
* `SwitchRegistries`: the part about the two tables; one lemma for each of its operations.
* `KeepsRegistries`, **`registriesAgree_run`**: the events that keep it, and their runs.
-/

namespace Oai5g.Upf

open PfcpSwitch

/-! ## The property -/

/-- A session is stored under its SEID. -/
def PfcpSwitch.Live (s : PfcpSwitch) (r : ℕ) : Prop :=
  s.upSeid2pfcpSessions (s.session r).seid = some r

/-- The registries agree. -/
structure RegistriesAgree (s : UpfN4) : Prop where
  agree : ∀ r, s.switch.upSeid2pfcpSessions (s.switch.session r).seid = some r ↔
    s.switch.cpFseid2pfcpSessions (s.switch.session r).cpFseid = some r
  seids : ∀ seid r, s.switch.upSeid2pfcpSessions seid = some r → (s.switch.session r).seid = seid
  fseids : ∀ fseid r, s.switch.cpFseid2pfcpSessions fseid = some r →
    (s.switch.session r).cpFseid = fseid
  distinct : ∀ q r, s.switch.Live q → s.switch.Live r → q ≠ r →
    (s.switch.session q).seid ≠ (s.switch.session r).seid ∧
      (s.switch.session q).cpFseid ≠ (s.switch.session r).cpFseid
  remembered : ∀ a ∈ s.associations, ∀ fseid, fseid ∈ a.sessions ↔
    ∃ r, s.switch.Live r ∧ s.peer r = a.nodeId ∧ (s.switch.session r).cpFseid = fseid

/-! ## The condition -/

/-- The events that keep the registries, in the state they find. -/
def KeepsRegistries (hashString : String → UInt64) (s : UpfN4) : N4Event → Prop
  | .setup node => ∀ a ∈ s.pendingAssociations, a.nodeId.same node →
      (∀ b ∈ s.associations, b.nodeId.key hashString ≠ node.key hashString) →
      ∀ r, s.switch.Live r → s.peer r ≠ node
  | .establishment node req =>
      ∀ fseid, req.cpFseid = some fseid → s.switch.cpFseid2pfcpSessions fseid = none →
        s.switch.seidGenerator + 1 < 2 ^ 64 ∧
        (RulesPass req → ∀ a ∈ s.associations,
          a.nodeId.key hashString = (node.getD .unknown).key hashString →
          a.nodeId = node.getD .unknown)
  | .modification req => ∀ r fseid, s.switch.upSeid2pfcpSessions req.seid = some r →
      req.cpFseid = some fseid → (s.switch.session r).cpFseid = fseid
  | .deletion seid =>
      (∀ r, s.switch.upSeid2pfcpSessions seid = some r → (s.switch.session r).cpFseid ≠ .zero →
        ∀ a ∈ s.associations, (s.switch.session r).cpFseid ∉ a.sessions) ∧
      ∀ a ∈ s.associations, Fseid.zero ∈ a.sessions →
        ∃ r, s.switch.upSeid2pfcpSessions seid = some r ∧ (s.switch.session r).cpFseid = .zero
  | _ => True

/-! ## The two tables -/

/-- The two tables agree, and the SEIDs in them were given. -/
structure SwitchRegistries (s : PfcpSwitch) : Prop where
  agree : ∀ r, s.upSeid2pfcpSessions (s.session r).seid = some r ↔
    s.cpFseid2pfcpSessions (s.session r).cpFseid = some r
  seids : ∀ seid r, s.upSeid2pfcpSessions seid = some r →
    (s.session r).seid = seid ∧ r < s.sessions.next ∧ seid.toNat ≤ s.seidGenerator
  fseids : ∀ fseid r, s.cpFseid2pfcpSessions fseid = some r → (s.session r).cpFseid = fseid

namespace SwitchRegistries

variable {s s' : PfcpSwitch} {q r : ℕ}

theorem init : SwitchRegistries .init := by
  constructor <;> simp [PfcpSwitch.init]

theorem live_lt (hs : SwitchRegistries s) (hr : s.Live r) : r < s.sessions.next :=
  (hs.seids _ r hr).2.1

theorem live_unique (hs : SwitchRegistries s) (hq : s.Live q) (hr : s.Live r)
    (h : (s.session q).cpFseid = (s.session r).cpFseid) : q = r := by
  have hq' := (hs.agree q).mp hq
  rw [h, (hs.agree r).mp hr] at hq'
  exact (Option.some.inj hq').symm

theorem of_registers (hs : SwitchRegistries s) (h : s'.registers = s.registers) :
    SwitchRegistries s' := by
  obtain ⟨hup, hcp, hgen, hnext, hkeys⟩ := registers_eq h
  constructor
  · intro r
    rw [hup, hcp, (hkeys r).1, (hkeys r).2]
    exact hs.agree r
  · intro seid r hr
    rw [(hkeys r).2, hnext, hgen]
    exact hs.seids seid r (hup ▸ hr)
  · intro fseid r hr
    rw [(hkeys r).1]
    exact hs.fseids fseid r (hcp ▸ hr)

theorem live_of_registers (h : s'.registers = s.registers) (r : ℕ) : s'.Live r ↔ s.Live r := by
  obtain ⟨hup, -, -, -, hkeys⟩ := registers_eq h
  unfold Live
  rw [hup, (hkeys r).2]

theorem cleanup_registers (s : PfcpSwitch) (r : ℕ) : (s.cleanup r).registers = s.registers := by
  rw [cleanup_eq]
  refine (modifySession_registers _ _ ?_).trans rfl
  exact fun _ => ⟨rfl, rfl⟩

/-- **A live session is removed** from both tables. -/
theorem removePfcpSession (hs : SwitchRegistries s) (hr : s.Live r) :
    SwitchRegistries (s.removePfcpSession r) ∧
      (s.removePfcpSession r).sessions.next = s.sessions.next ∧
      (∀ q, ((s.removePfcpSession r).session q).cpFseid = (s.session q).cpFseid ∧
        ((s.removePfcpSession r).session q).seid = (s.session q).seid) ∧
      ∀ q, (s.removePfcpSession r).Live q ↔ s.Live q ∧ q ≠ r := by
  obtain ⟨hup, hcp, hgen, hnext, hkeys⟩ := registers_eq (cleanup_registers s r)
  have hup' : (s.removePfcpSession r).upSeid2pfcpSessions =
      Function.update s.upSeid2pfcpSessions (s.session r).seid none := by
    unfold PfcpSwitch.removePfcpSession
    dsimp only
    rw [hup, (hkeys r).2]
  have hcp' : (s.removePfcpSession r).cpFseid2pfcpSessions =
      Function.update s.cpFseid2pfcpSessions (s.session r).cpFseid none := by
    unfold PfcpSwitch.removePfcpSession
    dsimp only
    rw [hcp, (hkeys r).1]
  have hkeys' : ∀ q, ((s.removePfcpSession r).session q).cpFseid = (s.session q).cpFseid ∧
      ((s.removePfcpSession r).session q).seid = (s.session q).seid := hkeys
  have hseid : ∀ {seid q}, (s.removePfcpSession r).upSeid2pfcpSessions seid = some q ↔
      s.upSeid2pfcpSessions seid = some q ∧ q ≠ r := by
    intro seid q
    rw [hup', update_none_eq_some]
    refine and_congr_right fun hq => not_congr ⟨?_, ?_⟩
    · rintro rfl
      exact Option.some.inj (hq.symm.trans hr)
    · rintro rfl
      exact (hs.seids seid q hq).1.symm
  have hcpr := (hs.agree r).mp hr
  have hfseid : ∀ {fseid q}, (s.removePfcpSession r).cpFseid2pfcpSessions fseid = some q ↔
      s.cpFseid2pfcpSessions fseid = some q ∧ q ≠ r := by
    intro fseid q
    rw [hcp', update_none_eq_some]
    refine and_congr_right fun hq => not_congr ⟨?_, ?_⟩
    · rintro rfl
      exact Option.some.inj (hq.symm.trans hcpr)
    · rintro rfl
      exact (hs.fseids fseid q hq).symm
  have hnext' : (s.removePfcpSession r).sessions.next = s.sessions.next := hnext
  have hgen' : (s.removePfcpSession r).seidGenerator = s.seidGenerator := hgen
  refine ⟨⟨fun q => ?_, fun seid q hq => ?_, fun fseid q hq => ?_⟩, hnext', hkeys', fun q => ?_⟩
  · rw [hseid, hfseid, (hkeys' q).1, (hkeys' q).2, hs.agree]
  · rw [(hkeys' q).2, hnext', hgen']
    exact hs.seids seid q (hseid.mp hq).1
  · rw [(hkeys' q).1]
    exact hs.fseids fseid q (hfseid.mp hq).1
  · unfold Live
    rw [(hkeys' q).2]
    exact hseid

theorem delSessions (hs : SwitchRegistries s) (fseids : List Fseid) :
    SwitchRegistries (UpfN4.delSessions fseids s) ∧
      (∀ q, ((UpfN4.delSessions fseids s).session q).cpFseid = (s.session q).cpFseid) ∧
      ∀ q, (UpfN4.delSessions fseids s).Live q ↔ s.Live q ∧ (s.session q).cpFseid ∉ fseids := by
  unfold UpfN4.delSessions
  induction fseids generalizing s with
  | nil => exact ⟨hs, fun _ => rfl, fun q => by simp⟩
  | cons fseid l ih =>
    rw [List.foldl_cons]
    unfold removePfcpSessionByFseid
    cases hf : s.cpFseid2pfcpSessions fseid with
    | none =>
      obtain ⟨h₁, h₂, h₃⟩ := ih hs
      refine ⟨h₁, h₂, fun q => (h₃ q).trans ?_⟩
      rw [List.mem_cons, not_or]
      refine and_congr_right fun hq => ⟨fun h => ⟨fun he => ?_, h⟩, fun h => h.2⟩
      have := (hs.agree q).mp hq
      rw [he, hf] at this
      cases this
    | some r =>
      have hfr := hs.fseids fseid r hf
      have hr : s.Live r := (hs.agree r).mpr (by rw [hfr, hf])
      obtain ⟨hs', -, hkeys, hlive⟩ := hs.removePfcpSession hr
      obtain ⟨h₁, h₂, h₃⟩ := ih hs'
      refine ⟨h₁, fun q => (h₂ q).trans (hkeys q).1, fun q => (h₃ q).trans ?_⟩
      rw [hlive, (hkeys q).1, List.mem_cons, not_or, and_assoc]
      refine and_congr_right fun hq => and_congr_left fun _ => not_congr ⟨fun h => ?_, fun h => ?_⟩
      · rw [h, hfr]
      · exact hs.live_unique hq hr (h.trans hfr.symm)

theorem newSession (hs : SwitchRegistries s) {fseid : Fseid} (hgen : s.seidGenerator + 1 < 2 ^ 64)
    (hnone : s.cpFseid2pfcpSessions fseid = none) :
    SwitchRegistries (s.newSession fseid) ∧ ¬ (s.newSession fseid).Live s.sessions.next ∧
      (∀ q, q ≠ s.sessions.next → (s.newSession fseid).session q = s.session q) ∧
      (s.newSession fseid).session s.sessions.next = ⟨fseid, s.nextSeid, [], []⟩ := by
  obtain ⟨hfresh, hnat⟩ := nextSeid_fresh hgen fun seid r hr => (hs.seids seid r hr).2.2
  have hself : (s.newSession fseid).session s.sessions.next = ⟨fseid, s.nextSeid, [], []⟩ :=
    Heap.alloc_cell_next ..
  have hold : ∀ q, q ≠ s.sessions.next → (s.newSession fseid).session q = s.session q :=
    fun q hq => Heap.alloc_cell_of_ne _ _ hq
  have hnot : (s.newSession fseid).upSeid2pfcpSessions s.nextSeid ≠ some s.sessions.next :=
    fun h => nomatch hfresh.symm.trans h
  refine ⟨⟨fun q => ?_, fun seid q hq => ?_, fun f q hq => ?_⟩, ?_, hold, hself⟩
  · by_cases hq : q = s.sessions.next
    · subst hq
      rw [hself]
      exact iff_of_false hnot fun h => nomatch hnone.symm.trans h
    · rw [hold q hq]
      exact hs.agree q
  · obtain ⟨hseid, hlt, hle⟩ := hs.seids seid q hq
    rw [hold q hlt.ne]
    exact ⟨hseid, hlt.trans (Nat.lt_succ_self _), hle.trans (Nat.le_succ _)⟩
  · have hf : (s.session q).cpFseid = f := hs.fseids f q hq
    have hlive : s.Live q := (hs.agree q).mpr (by rw [hf]; exact hq)
    rw [hold q (hs.live_lt hlive).ne, hf]
  · unfold Live
    rw [hself]
    exact hnot

/-- **A session is stored** in both tables. -/
theorem storeSession (hs : SwitchRegistries s) (cfg : UpfCfg) (a : PfcpResponse) {fseid : Fseid}
    (hlt : r < s.sessions.next) (hfseid : (s.session r).cpFseid = fseid)
    (hle : (s.session r).seid.toNat ≤ s.seidGenerator)
    (hup : s.upSeid2pfcpSessions (s.session r).seid = none)
    (hcp : s.cpFseid2pfcpSessions fseid = none) :
    SwitchRegistries (storeSession cfg r fseid (s, a)).1 ∧
      (∀ q, ((storeSession cfg r fseid (s, a)).1.session q) = s.session q) ∧
      ∀ q, (storeSession cfg r fseid (s, a)).1.Live q ↔ s.Live q ∨ q = r := by
  have hentry : ∀ {α : Type} [DecidableEq α] {m : α → Option ℕ} {k k' : α} {q : ℕ}, m k = none →
      (insertEntry m k r k' = some q ↔ k' = k ∧ q = r ∨ m k' = some q) := by
    intro α _ m k k' q hk
    unfold insertEntry
    by_cases h : k' = k
    · subst h
      simp [hk, eq_comm]
    · simp [h]
  have hseids : ∀ {seid q}, (PfcpSwitch.storeSession cfg r fseid (s, a)).1.upSeid2pfcpSessions seid =
      some q ↔ seid = (s.session r).seid ∧ q = r ∨ s.upSeid2pfcpSessions seid = some q := hentry hup
  have hfseids : ∀ {f q}, (PfcpSwitch.storeSession cfg r fseid (s, a)).1.cpFseid2pfcpSessions f =
      some q ↔ f = fseid ∧ q = r ∨ s.cpFseid2pfcpSessions f = some q := hentry hcp
  have hsession : ∀ q, (PfcpSwitch.storeSession cfg r fseid (s, a)).1.session q = s.session q :=
    fun _ => rfl
  refine ⟨⟨fun q => ?_, fun seid q hq => ?_, fun f q hq => ?_⟩, hsession, fun q => ?_⟩
  · rw [hseids, hfseids, hsession, hs.agree]
    by_cases hq : q = r
    · subst hq
      simp [hfseid]
    · simp [hq]
  · rw [hsession]
    rcases hseids.mp hq with ⟨rfl, rfl⟩ | hq
    · exact ⟨rfl, hlt, hle⟩
    · exact hs.seids seid q hq
  · rw [hsession]
    rcases hfseids.mp hq with ⟨rfl, rfl⟩ | hq
    · exact hfseid
    · exact hs.fseids f q hq
  · unfold Live
    rw [hseids, hsession, or_comm]
    refine or_congr_right ⟨fun h => h.2, fun h => ⟨by rw [h], h⟩⟩

theorem establishment (hs : SwitchRegistries s) (cfg : UpfCfg) (req : EstablishmentRequest)
    {fseid : Fseid} (hgen : s.seidGenerator + 1 < 2 ^ 64)
    (hnone : s.cpFseid2pfcpSessions fseid = none) :
    let x := establishRules cfg s.sessions.next req (s.newSession fseid)
    (SwitchRegistries (PfcpSwitch.storeSession cfg s.sessions.next fseid x).1 ∧
      ((PfcpSwitch.storeSession cfg s.sessions.next fseid x).1.session s.sessions.next).cpFseid = fseid ∧
      (∀ q, q ≠ s.sessions.next →
        ((PfcpSwitch.storeSession cfg s.sessions.next fseid x).1.session q).cpFseid =
          (s.session q).cpFseid) ∧
      ∀ q, (PfcpSwitch.storeSession cfg s.sessions.next fseid x).1.Live q ↔
        s.Live q ∨ q = s.sessions.next) ∧
    SwitchRegistries (x.1.cleanup s.sessions.next) ∧
    (∀ q, q ≠ s.sessions.next →
      ((x.1.cleanup s.sessions.next).session q).cpFseid = (s.session q).cpFseid) ∧
    ∀ q, (x.1.cleanup s.sessions.next).Live q ↔ s.Live q := by
  intro x
  obtain ⟨hfresh, hnat⟩ := nextSeid_fresh hgen fun seid r hr => (hs.seids seid r hr).2.2
  obtain ⟨hnew, hnot, hold, hself⟩ := hs.newSession hgen hnone
  have hx : x.1.registers = (s.newSession fseid).registers :=
    establishRules_registers cfg (s.newSession fseid) s.sessions.next req
  obtain ⟨hup, hcp, hxgen, hnext, hkeys⟩ := registers_eq hx
  have hlive : ∀ q, (s.newSession fseid).Live q ↔ s.Live q := by
    intro q
    by_cases hq : q = s.sessions.next
    · subst hq
      exact iff_of_false hnot fun h => (hs.live_lt h).false
    · unfold Live
      rw [hold q hq]
      rfl
  have hseid : (x.1.session s.sessions.next).seid = s.nextSeid := by rw [(hkeys _).2, hself]
  have hclean : (x.1.cleanup s.sessions.next).registers = (s.newSession fseid).registers :=
    (cleanup_registers _ _).trans hx
  refine ⟨?_, hnew.of_registers hclean, fun q hq => ?_, fun q => ?_⟩
  · obtain ⟨h₁, h₂, h₃⟩ := (hnew.of_registers hx).storeSession cfg x.2
      (r := s.sessions.next) (by rw [hnext]; exact Nat.lt_succ_self _)
      (by rw [(hkeys _).1, hself]) (by rw [hseid, hnat, hxgen]; exact le_rfl)
      (by rw [hseid, hup]; exact hfresh) (by rw [hcp]; exact hnone)
    refine ⟨h₁, ?_, fun q hq => ?_, fun q => (h₃ q).trans (or_congr_left ?_)⟩
    · exact (congrArg _ (h₂ _)).trans (by rw [(hkeys _).1, hself])
    · exact (congrArg _ (h₂ q)).trans (by rw [(hkeys q).1, hold q hq])
    · exact (live_of_registers hx q).trans (hlive q)
  · rw [((registers_eq hclean).2.2.2.2 q).1, hold q hq]
  · exact (live_of_registers hclean q).trans (hlive q)

end SwitchRegistries

/-! ## The associations -/

theorem mem_insertFseid {f g : Fseid} {l : List Fseid} : g ∈ insertFseid f l ↔ g = f ∨ g ∈ l := by
  induction l with
  | nil => simp [insertFseid]
  | cons a l ih =>
    unfold insertFseid
    split_ifs with h
    · subst h
      simp
    · simp
    · rw [List.mem_cons, ih, List.mem_cons]
      tauto

/-- The registries, with what their steps need. -/
structure N4Inv (hashString : String → UInt64) (s : UpfN4) : Prop where
  switch : SwitchRegistries s.switch
  remembered : ∀ a ∈ s.associations, ∀ fseid, fseid ∈ a.sessions ↔
    ∃ r, s.switch.Live r ∧ s.peer r = a.nodeId ∧ (s.switch.session r).cpFseid = fseid
  pending : ∀ a ∈ s.pendingAssociations, a.sessions = []
  keys : (s.associations.map fun a => a.nodeId.key hashString).Nodup

namespace N4Inv

variable {hashString : String → UInt64} {cfg : UpfCfg} {s : UpfN4}

theorem init : N4Inv hashString .init where
  switch := .init
  remembered := by simp [UpfN4.init]
  pending := by simp [UpfN4.init]
  keys := by simp [UpfN4.init]

theorem registriesAgree (hs : N4Inv hashString s) : RegistriesAgree s where
  agree := hs.switch.agree
  seids seid r hr := (hs.switch.seids seid r hr).1
  fseids := hs.switch.fseids
  distinct q r hq hr hne := by
    refine ⟨fun h => hne ?_, fun h => hne (hs.switch.live_unique hq hr h)⟩
    unfold PfcpSwitch.Live at hq hr
    rw [h, hr] at hq
    exact (Option.some.inj hq).symm
  remembered := hs.remembered

/-- The associations are changed one by one, with their Node IDs, and remember the live sessions. -/
theorem map_associations (hs : N4Inv hashString s) {switch : PfcpSwitch} {peer : ℕ → NodeId}
    {f : PfcpAssociation → PfcpAssociation} (hswitch : SwitchRegistries switch)
    (hnode : ∀ a, (f a).nodeId = a.nodeId)
    (hf : ∀ a ∈ s.associations, ∀ fseid, fseid ∈ (f a).sessions ↔
      ∃ r, switch.Live r ∧ peer r = a.nodeId ∧ (switch.session r).cpFseid = fseid) :
    N4Inv hashString { s with
      switch := switch, peer := peer, associations := s.associations.map f } where
  switch := hswitch
  remembered b hb fseid := by
    obtain ⟨a, ha, rfl⟩ := List.mem_map.mp hb
    rw [hnode]
    exact hf a ha fseid
  pending := hs.pending
  keys := by
    have : ((s.associations.map f).map fun a => a.nodeId.key hashString) =
        s.associations.map fun a => a.nodeId.key hashString := by
      rw [List.map_map]
      exact List.map_congr_left fun a _ => by simp [hnode]
    exact this ▸ hs.keys

theorem modify_retries (hs : N4Inv hashString s) (c : PfcpAssociation → Bool) (n : ℕ) :
    N4Inv hashString { s with
      associations := s.associations.map fun a => if c a then a.setRetries n else a } := by
  refine hs.map_associations hs.switch (fun a => ?_) fun a ha fseid => ?_
  · split_ifs <;> rfl
  · rw [← hs.remembered a ha fseid]
    split_ifs <;> rfl

theorem addPeerCandidateNode (hs : N4Inv hashString s) (node : NodeId) :
    N4Inv hashString (s.addPeerCandidateNode node) where
  switch := hs.switch
  remembered := hs.remembered
  pending a ha := by
    rcases List.mem_append.mp ha with ha | ha
    · exact hs.pending a (List.mem_of_mem_eraseP ha)
    · rw [List.mem_singleton.mp ha]
      rfl
  keys := hs.keys

theorem addAssociation (hs : N4Inv hashString s) {node : NodeId}
    (hc : KeepsRegistries hashString s (.setup node)) :
    N4Inv hashString (s.addAssociation hashString node) := by
  unfold UpfN4.addAssociation
  cases ha : s.pendingAssociations.find? fun a => a.nodeId.same node with
  | none => exact hs
  | some a =>
    have hmem := List.mem_of_find?_eq_some ha
    have hsame : a.nodeId.same node := List.find?_some (p := fun b : PfcpAssociation => b.nodeId.same node) ha
    have hnode : a.nodeId = node := by
      simp only [NodeId.same, Bool.and_eq_true, decide_eq_true_eq] at hsame
      exact hsame.1
    have hpending : ∀ b ∈ s.pendingAssociations.eraseP (fun a => a.nodeId.same node),
        b.sessions = [] := fun b hb => hs.pending b (List.mem_of_mem_eraseP hb)
    dsimp only
    split_ifs with hany
    · exact ⟨hs.switch, hs.remembered, hpending, hs.keys⟩
    · have hfree : ∀ b ∈ s.associations, b.nodeId.key hashString ≠ node.key hashString := by
        simpa using hany
      refine ⟨hs.switch, fun b hb fseid => ?_, hpending, ?_⟩
      · rcases List.mem_append.mp hb with hb | hb
        · exact hs.remembered b hb fseid
        · obtain rfl := List.mem_singleton.mp hb
          rw [hs.pending b hmem]
          refine iff_of_false List.not_mem_nil fun ⟨r, hr, hpeer, _⟩ => ?_
          exact hc b hmem hsame hfree r hr (hpeer.trans hnode)
      · rw [List.map_append, List.map_singleton, hnode]
        refine List.nodup_append.mpr ⟨hs.keys, List.nodup_singleton _, ?_⟩
        intro k hk k' hk'
        obtain ⟨b, hb, rfl⟩ := List.mem_map.mp hk
        rw [List.mem_singleton.mp hk']
        exact hfree b hb

theorem timeoutHeartbeatRequest (hs : N4Inv hashString s) (hash : UInt64) :
    N4Inv hashString (s.timeoutHeartbeatRequest hashString hash) := by
  unfold UpfN4.timeoutHeartbeatRequest
  cases ha : s.associations.find? fun a => a.nodeId.hash hashString = hash with
  | none => exact hs
  | some a =>
    have hmem := List.mem_of_find?_eq_some ha
    have hhash : a.nodeId.hash hashString = hash := by
      simpa using List.find?_some ha
    dsimp only
    split_ifs with hretries
    · have := hs.modify_retries (fun b => b.nodeId.key hashString = a.nodeId.key hashString)
        (a.numRetriesTimerHeartbeat + 1)
      simpa [UpfN4.modifyAssociation] using this
    · obtain ⟨hswitch, hkeys, hlive⟩ := hs.switch.delSessions a.sessions
      refine @addPeerCandidateNode hashString
        { s with
          switch := UpfN4.delSessions a.sessions s.switch
          associations := s.associations.filter fun b => b.nodeId.key hashString ≠ hash.toUInt32 }
        ⟨hswitch, fun b hb fseid => ?_, hs.pending, ?_⟩ a.nodeId
      · obtain ⟨hb, hbkey⟩ := List.mem_filter.mp hb
        have hne : b.nodeId ≠ a.nodeId := fun h => by
          rw [h] at hbkey
          simp [NodeId.key, hhash] at hbkey
        rw [hs.remembered b hb fseid]
        refine exists_congr fun r => ?_
        rw [hkeys r, hlive r]
        refine ⟨fun ⟨hr, hpeer, hf⟩ => ⟨⟨hr, fun hrem => ?_⟩, hpeer, hf⟩,
          fun ⟨hr, hpeer, hf⟩ => ⟨hr.1, hpeer, hf⟩⟩
        -- the sessions that were removed are those of the other peer
        obtain ⟨q, hq, hqpeer, hqf⟩ := (hs.remembered a hmem _).mp hrem
        obtain rfl := hs.switch.live_unique hq hr hqf
        exact hne (hpeer.symm.trans hqpeer)
      · exact hs.keys.sublist (List.filter_sublist.map _)

theorem establishment (hs : N4Inv hashString s) {node : Option NodeId} {req : EstablishmentRequest}
    (hc : KeepsRegistries hashString s (.establishment node req)) :
    N4Inv hashString (s.handleEstablishment hashString cfg node req) := by
  unfold UpfN4.handleEstablishment PfcpSwitch.handlePfcpSessionEstablishmentRequest
  cases hfseid : req.cpFseid with
  | none => exact ⟨hs.switch, hs.remembered, hs.pending, hs.keys⟩
  | some fseid =>
    dsimp only
    by_cases hexist : (s.switch.cpFseid2pfcpSessions fseid).isSome
    · rw [if_pos hexist, if_neg fun h => nomatch h]
      exact ⟨hs.switch, hs.remembered, hs.pending, hs.keys⟩
    · have hnone : s.switch.cpFseid2pfcpSessions fseid = none := by
        simpa [Option.isSome_iff_ne_none] using hexist
      obtain ⟨hgen, hnode⟩ := hc fseid hfseid hnone
      obtain ⟨⟨hswitch, hself, hold, hlive⟩, hclean, hcleanOld, hcleanLive⟩ :=
        hs.switch.establishment cfg req hgen hnone
      rw [if_neg hexist]
      by_cases hacc : (establishRules cfg s.switch.sessions.next req
          (s.switch.newSession fseid)).2.cause = .requestAccepted
      · rw [if_pos hacc]
        rw [if_pos (by exact hacc)]
        refine hs.map_associations hswitch (fun a => ?_) fun a ha g => ?_
        · split_ifs <;> rfl
        · -- the new session is remembered where it belongs
          have hfresh : ∀ {r}, s.switch.Live r → r ≠ s.switch.sessions.next :=
            fun hr => (hs.switch.live_lt hr).ne
          have hrhs : (∃ r, (PfcpSwitch.storeSession cfg s.switch.sessions.next fseid
              (establishRules cfg s.switch.sessions.next req
                (s.switch.newSession fseid))).1.Live r ∧
              Function.update s.peer s.switch.sessions.next (node.getD .unknown) r = a.nodeId ∧
              ((PfcpSwitch.storeSession cfg s.switch.sessions.next fseid
                (establishRules cfg s.switch.sessions.next req
                  (s.switch.newSession fseid))).1.session r).cpFseid = g) ↔
              (node.getD .unknown = a.nodeId ∧ g = fseid) ∨ g ∈ a.sessions := by
            rw [hs.remembered a ha g]
            constructor
            · rintro ⟨r, hr, hpeer, hg⟩
              by_cases hrn : r = s.switch.sessions.next
              · subst hrn
                rw [Function.update_self] at hpeer
                exact .inl ⟨hpeer, hg.symm.trans hself⟩
              · rw [Function.update_of_ne hrn] at hpeer
                exact .inr ⟨r, ((hlive r).mp hr).resolve_right hrn, hpeer, (hold r hrn).symm.trans hg⟩
            · rintro (⟨hpeer, rfl⟩ | ⟨r, hr, hpeer, hg⟩)
              · exact ⟨_, (hlive _).mpr (.inr rfl), (Function.update_self ..).trans hpeer, hself⟩
              · exact ⟨r, (hlive r).mpr (.inl hr), (Function.update_of_ne (hfresh hr) ..).trans hpeer,
                  (hold r (hfresh hr)).trans hg⟩
          rw [hrhs]
          split_ifs with hkey
          · have := hnode ((establishRules_cause cfg _ req _).mp hacc) a ha hkey
            simp [PfcpAssociation.notifyAddSession, mem_insertFseid, this]
          · have hne : node.getD .unknown ≠ a.nodeId := fun h => hkey (by rw [h])
            simp [hne]
      · rw [if_neg hacc, if_neg (by exact hacc)]
        refine ⟨hclean, fun a ha g => (hs.remembered a ha g).trans (exists_congr fun r => ?_),
          hs.pending, hs.keys⟩
        constructor
        · rintro ⟨hr, hpeer, hg⟩
          exact ⟨(hcleanLive r).mpr hr, hpeer, (hcleanOld r (hs.switch.live_lt hr).ne).trans hg⟩
        · rintro ⟨hr, hpeer, hg⟩
          have hr := (hcleanLive r).mp hr
          exact ⟨hr, hpeer, (hcleanOld r (hs.switch.live_lt hr).ne).symm.trans hg⟩

theorem modification (hs : N4Inv hashString s) {req : ModificationRequest}
    (hc : KeepsRegistries hashString s (.modification req)) :
    N4Inv hashString (s.handleModification cfg req) := by
  have hregisters : (s.switch.handlePfcpSessionModificationRequest cfg req).1.registers =
      s.switch.registers := by
    unfold PfcpSwitch.handlePfcpSessionModificationRequest
    cases hr : s.switch.upSeid2pfcpSessions req.seid with
    | none => rfl
    | some r =>
      refine (modifyRules_registers ..).trans ?_
      unfold takeFseid
      cases hfseid : req.cpFseid with
      | none => rfl
      | some fseid =>
        have hsame : (s.switch.session r).setCpFseid fseid = s.switch.session r := by
          rw [← hc r fseid hr hfseid]
          rfl
        have : (s.switch.modifySession r fun session => session.setCpFseid fseid) = s.switch := by
          have := Heap.modify_id_of_eq s.switch.sessions r
            (fun session => session.setCpFseid fseid) hsame
          simp only [PfcpSwitch.modifySession, this]
        dsimp only
        rw [this]
  refine ⟨hs.switch.of_registers hregisters, fun a ha g => ?_, hs.pending, hs.keys⟩
  refine (hs.remembered a ha g).trans (exists_congr fun r => ?_)
  refine and_congr (SwitchRegistries.live_of_registers hregisters r).symm (and_congr_right fun _ => ?_)
  exact iff_of_eq (congrArg (· = g) ((registers_eq hregisters).2.2.2.2 r).1.symm)

theorem forget (hs : N4Inv hashString s) {r : ℕ} (hr : s.switch.Live r)
    {f : PfcpAssociation → PfcpAssociation} (hnode : ∀ a, (f a).nodeId = a.nodeId)
    (hf : ∀ a ∈ s.associations, ∀ g, g ∈ (f a).sessions ↔
      g ∈ a.sessions ∧ g ≠ (s.switch.session r).cpFseid) :
    N4Inv hashString { s with
      switch := s.switch.removePfcpSession r, associations := s.associations.map f } := by
  obtain ⟨hswitch, -, hkeys, hlive⟩ := hs.switch.removePfcpSession hr
  refine hs.map_associations hswitch hnode fun a ha g => ?_
  rw [hf a ha g, hs.remembered a ha g]
  constructor
  · rintro ⟨⟨q, hq, hpeer, rfl⟩, hne⟩
    exact ⟨q, (hlive q).mpr ⟨hq, fun h => hne (by rw [h])⟩, hpeer, (hkeys q).1⟩
  · rintro ⟨q, hq, hpeer, hg⟩
    obtain ⟨hq, hqr⟩ := (hlive q).mp hq
    rw [(hkeys q).1] at hg
    exact ⟨⟨q, hq, hpeer, hg⟩, fun h => hqr (hs.switch.live_unique hq hr (hg.trans h))⟩

theorem deletion (hs : N4Inv hashString s) {seid : UInt64}
    (hc : KeepsRegistries hashString s (.deletion seid)) :
    N4Inv hashString (s.handleDeletion hashString seid) := by
  obtain ⟨hother, hzero⟩ := hc
  unfold UpfN4.handleDeletion PfcpSwitch.handlePfcpSessionDeletionRequest UpfN4.notifyDelSession
  dsimp only
  cases hfind : s.associations.find? fun a => a.hasSession .zero with
  | none =>
    have hnot : ∀ a ∈ s.associations, Fseid.zero ∉ a.sessions := by
      simpa [PfcpAssociation.hasSession] using hfind
    cases hr : s.switch.upSeid2pfcpSessions seid with
    | none => exact hs
    | some r =>
      have hlive : s.switch.Live r := by
        unfold PfcpSwitch.Live
        rw [(hs.switch.seids seid r hr).1, hr]
      have := hs.forget hlive (f := id) (fun _ => rfl) fun a ha g => by
        refine ⟨fun hg => ⟨hg, fun h => ?_⟩, fun hg => hg.1⟩
        by_cases h0 : (s.switch.session r).cpFseid = .zero
        · exact hnot a ha (h0 ▸ h ▸ hg)
        · exact hother r hr h0 a ha (h ▸ hg)
      simpa using this
  | some b =>
    have hb := List.mem_of_find?_eq_some hfind
    have hbzero : Fseid.zero ∈ b.sessions := by
      simpa [PfcpAssociation.hasSession] using List.find?_some hfind
    obtain ⟨r, hr, hrzero⟩ := hzero b hb hbzero
    have hlive : s.switch.Live r := by
      unfold PfcpSwitch.Live
      rw [(hs.switch.seids seid r hr).1, hr]
    rw [hr]
    refine hs.forget hlive (fun a => ?_) fun a ha g => ?_
    · split_ifs <;> rfl
    · rw [hrzero]
      split_ifs with hkey
      · simp [PfcpAssociation.notifyDelSession]
      · refine ⟨fun hg => ⟨hg, ?_⟩, fun hg => hg.1⟩
        rintro rfl
        -- only the association of the peer remembers the session
        have hpeer : ∀ {a}, a ∈ s.associations → Fseid.zero ∈ a.sessions → s.peer r = a.nodeId := by
          intro a ha hg
          obtain ⟨q, hq, hqpeer, hqf⟩ := (hs.remembered a ha _).mp hg
          rwa [hs.switch.live_unique hq hlive (hqf.trans hrzero.symm)] at hqpeer
        exact hkey (by rw [← hpeer ha hg, hpeer hb hbzero])

/-- **One event.** -/
theorem n4Step (hs : N4Inv hashString s) (e : N4Event) (hc : KeepsRegistries hashString s e) :
    N4Inv hashString (Upf.n4Step hashString cfg s e) := by
  cases e with
  | candidate node => exact hs.addPeerCandidateNode node
  | setup node => exact hs.addAssociation hc
  | heartbeat hash =>
    have := hs.modify_retries (fun a => a.nodeId.hash hashString = hash) 0
    simpa [Upf.n4Step, UpfN4.initiateHeartbeatRequest] using this
  | timeout hash => exact hs.timeoutHeartbeatRequest hash
  | establishment node req => exact hs.establishment hc
  | modification req => exact hs.modification hc
  | deletion seid => exact hs.deletion hc

end N4Inv

/-! ## Runs -/

/-- **In every run whose events keep the registries, they agree.** -/
theorem registriesAgree_run (hashString : String → UInt64) (cfg : UpfCfg) (es : List N4Event)
    (h : Along (n4Step hashString cfg) (KeepsRegistries hashString) .init es) :
    RegistriesAgree (run (n4Step hashString cfg) .init es) :=
  (Along.invariant (I := N4Inv hashString) (fun _ e hs hc => hs.n4Step e hc) .init h).registriesAgree

section

/-- A peer becomes an association and establishes a session with some FARs. -/
def associated (fseid : Fseid) : List N4Event :=
  [.candidate (.ipv4 7), .setup (.ipv4 7), .establishment (some (.ipv4 7)) ⟨some fseid, [dropFar 1], []⟩]

/-- The CP F-SEID that the deletion forgets is the zero one. -/
theorem registriesAgree_run_zero :
    Along (n4Step (fun _ => 0) exampleCfg) (KeepsRegistries fun _ => 0) .init
        (associated .zero ++ [.deletion 1]) ∧
      RegistriesAgree (run (n4Step (fun _ => 0) exampleCfg) .init (associated .zero ++ [.deletion 1])) := by
  have h : Along (n4Step (fun _ => 0) exampleCfg) (KeepsRegistries fun _ => 0) .init
      (associated .zero ++ [.deletion 1]) := by
    refine ⟨trivial, fun _ _ _ _ r hr => ?_, fun _ _ _ => ⟨by decide, fun _ a ha _ => ?_⟩,
      ⟨fun r hr hne => ?_, fun a ha _ => ⟨0, rfl, rfl⟩⟩, trivial⟩
    · exact nomatch hr
    · obtain rfl := List.mem_singleton.mp ha
      rfl
    · obtain rfl : r = 0 := (Option.some.inj hr).symm
      exact (hne rfl).elim
  exact ⟨h, registriesAgree_run _ exampleCfg _ h⟩

/-- **Two runs that break the registries**: the association still remembers a session that was deleted,
and a new CP F-SEID is not a key. -/
theorem not_registriesAgree_run :
    ¬ RegistriesAgree (run (n4Step (fun _ => 0) exampleCfg) .init
        (associated (exampleFseid 1) ++ [.deletion 1])) ∧
      ¬ RegistriesAgree (run (n4Step (fun _ => 0) exampleCfg) .init
        (associated (exampleFseid 1) ++
          [.modification ⟨1, some (exampleFseid 2), [], [], [], [], [], []⟩])) := by
  constructor
  · intro h
    obtain ⟨r, hr, -, hf⟩ := (h.remembered ⟨.ipv4 7, [exampleFseid 1], 0⟩ (by decide)
      (exampleFseid 1)).mp (by decide)
    have hnone : ∀ seid, (run (n4Step (fun _ => 0) exampleCfg) .init
        (associated (exampleFseid 1) ++ [.deletion 1])).switch.upSeid2pfcpSessions seid = none := by
      intro seid
      change Function.update (Function.update (fun _ => none) 1 (some 0)) 1 none seid = none
      simp
    exact nomatch (hnone _).symm.trans hr
  · intro h
    have := (h.agree 0).mp (by decide)
    exact absurd this (by decide)

end

end Oai5g.Upf
