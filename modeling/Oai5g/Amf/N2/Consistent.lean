import Oai5g.Amf.N2.Gnb
import Oai5g.Amf.N2.Refusal

/-!
# The gNB and UE tables

* `CtxKeyed`: every context under an AMF UE NGAP ID is stored under its own IDs.
* `Effect`: what a reset, a shutdown or a setup without retained UEs should do to the tables.
* `Cut`: some contexts are removed from both tables, the others stay; one lemma for each removal.
* `releaseUeContexts_cut`, `resetItems_cut`: the loops, under `ReleaseClean` and `ItemsClean`.
* `KeepsTables`: the events that keep the tables consistent.
-/

namespace Oai5g.Amf

/-! ## The property -/

section

variable (s s' : N2State)

/-- The key of a context in `ranid2uecontext`. -/
def OwnKey (r : ℕ) (k : UInt32 × UInt32) : Prop :=
  ∃ gc, s.assoc2gnb (s.unc r).gnbAssocId = some gc ∧ k = ((s.unc r).ranUeNgapId, gc.gnbId)

/-- A context is stored under its own key. -/
def Own (r : ℕ) : Prop := ∃ k, OwnKey s r k ∧ s.ranid2uecontext k = some r

/-- A context is in one of the tables. -/
def Held (r : ℕ) : Prop :=
  (∃ a, s.amfueid2uecontext a = some r) ∨ ∃ k, s.ranid2uecontext k = some r

/-- A context of a gNB. -/
def OfGnb (g : UInt32) (r : ℕ) : Prop :=
  ∃ gc, s.assoc2gnb (s.unc r).gnbAssocId = some gc ∧ gc.gnbId = g

/-- Every context under an AMF UE NGAP ID has that ID and is stored under its own key. -/
def CtxKeyed : Prop :=
  ∀ a r, s.amfueid2uecontext a = some r → (s.unc r).amfUeNgapId = a ∧ Own s r

/-- A context is left as it was. -/
structure Untouched (r : ℕ) : Prop where
  unc : s'.unc r = s.unc r
  amf : ∀ a, s'.amfueid2uecontext a = some r ↔ s.amfueid2uecontext a = some r
  ran : ∀ k, s'.ranid2uecontext k = some r ↔ s.ranid2uecontext k = some r

/-- The contexts of a gNB are gone, and no others. -/
structure Released (g : UInt32) : Prop where
  gone : ∀ r, Held s' r → ¬ OfGnb s' g r
  kept : ∀ r, ¬ OfGnb s' g r → Untouched s s' r

/-- The context an item of a partial reset names. -/
def itemTarget (g : UInt32) (item : UeConnectionItem) : Option ℕ :=
  match item.amfUeNgapId, item.ranUeNgapId with
  | some amf, _ => s.amfueid2uecontext amf
  | none, some ran => s.ranid2uecontext (ran, g)
  | none, none => none

/-- A context is listed in a partial reset. -/
def Listed (g : UInt32) (items : List UeConnectionItem) (r : ℕ) : Prop :=
  ∃ item ∈ items, itemTarget s g item = some r

/-- The listed contexts are gone, and no others. -/
structure ReleasedPart (g : UInt32) (items : List UeConnectionItem) : Prop where
  gone : ∀ r, Listed s g items r → ¬ Held s' r
  kept : ∀ r, ¬ Listed s g items r → Untouched s s' r

/-- The gNB is in neither table, the others still are. -/
structure GnbGone (g : UInt32) : Prop where
  assoc : ∀ assoc gc, s'.assoc2gnb assoc = some gc → gc.gnbId ≠ g
  gnb : ∀ id gc, s'.gnbid2gnb id = some gc → gc.gnbId ≠ g
  kept : ∀ assoc gc, s.assoc2gnb assoc = some gc → gc.gnbId ≠ g →
    s'.assoc2gnb assoc = some gc ∧ s'.gnbid2gnb gc.gnbId = s.gnbid2gnb gc.gnbId

end

/-- After an association and a setup with the ID, the gNB is found by both. -/
def SetUpAgain (s : RanState) (assoc : SctpAssocId) (g : UInt32) : Prop :=
  let s' := (s.handleSctpNewAssociation assoc).handleNgSetupRequest assoc ⟨some g, true, true, false⟩
  s'.n2.assoc2gnb assoc = some ⟨g, assoc⟩ ∧ s'.n2.gnbid2gnb g = some ⟨g, assoc⟩ ∧
    s'.ngState assoc = .ready

/-- What an event should do to the tables. -/
def Effect (s s' : RanState) : NgapEvent → Prop
  | .setup assoc req => ∀ gc g, s.n2.assoc2gnb assoc = some gc → req.gnbId = some g →
      req.accepted = true → req.uesRetained = false → Released s.n2 s'.n2 g
  | .reset assoc => ∀ gc, s.n2.assoc2gnb assoc = some gc → Released s.n2 s'.n2 gc.gnbId
  | .resetPart assoc items => ∀ gc, s.n2.assoc2gnb assoc = some gc →
      ReleasedPart s.n2 s'.n2 gc.gnbId items
  | .shutdown assoc => ∀ gc, s.n2.assoc2gnb assoc = some gc →
      Released s.n2 s'.n2 gc.gnbId ∧ GnbGone s.n2 s'.n2 gc.gnbId ∧ ∀ assoc', SetUpAgain s' assoc' gc.gnbId
  | _ => True

/-- **The tables are consistent in every state of a run, and every event does what it should.** -/
def TablesConsistent (env : N2Env) (es : List NgapEvent) : Prop :=
  CtxKeyed (run (ngapStep env) .start es).n2 ∧
    Along (ngapStep env) (fun s e => CtxKeyed s.n2 ∧ Effect s (ngapStep env s e) e) .start es

/-! ## The condition -/

/-- All contexts of a gNB are those of one association, each under its own RAN UE NGAP ID only, and
their AMF UE NGAP IDs, NAS and UE contexts name no other context. -/
structure ReleaseClean (s : N2State) (assoc : SctpAssocId) (g : UInt32) : Prop where
  only : ∀ r, Held s r → OfGnb s g r → (s.unc r).gnbAssocId = assoc
  own : ∀ k r, s.ranid2uecontext k = some r → (s.unc r).gnbAssocId = assoc →
    k = ((s.unc r).ranUeNgapId, g)
  amf : ∀ k r q, s.ranid2uecontext k = some r → (s.unc r).gnbAssocId = assoc →
    s.amfueid2uecontext (s.unc r).amfUeNgapId = some q → q = r
  nas : ∀ k r n uc q, s.ranid2uecontext k = some r → (s.unc r).gnbAssocId = assoc →
    s.nas.amfueid2nasContext (s.unc r).amfUeNgapId = some n →
    s.ueContexts ((s.nas.nc n).ranUeNgapId, (s.unc r).amfUeNgapId) = some uc →
    s.ranid2uecontext ((s.nas.nc n).ranUeNgapId, uc.gnbId) = some q → q = r

/-- The item of a partial reset finds all entries of its context, and no other. -/
def ItemClean (s : N2State) (g : UInt32) (item : UeConnectionItem) : Prop :=
  match item.amfUeNgapId, item.ranUeNgapId with
  | some amf, _ =>
    (∀ r, s.amfueid2uecontext amf = some r → ∃ n uc, s.nas.amfueid2nasContext amf = some n ∧
      s.ueContexts ((s.nas.nc n).ranUeNgapId, amf) = some uc ∧
      ∀ k, s.ranid2uecontext k = some r → k = ((s.nas.nc n).ranUeNgapId, uc.gnbId)) ∧
    ∀ n uc q, s.nas.amfueid2nasContext amf = some n →
      s.ueContexts ((s.nas.nc n).ranUeNgapId, amf) = some uc →
      s.ranid2uecontext ((s.nas.nc n).ranUeNgapId, uc.gnbId) = some q →
      s.amfueid2uecontext amf = some q
  | none, some ran => ∀ r, s.ranid2uecontext (ran, g) = some r →
    (∀ k, s.ranid2uecontext k = some r → k = (ran, g)) ∧
    ∀ q, s.amfueid2uecontext (s.unc r).amfUeNgapId = some q → q = r
  | none, none => True

/-- Each item of a reset is clean when its turn comes. -/
def ItemsClean (g : UInt32) : List UeConnectionItem → N2State → Prop
  | [], _ => True
  | item :: items, s => ItemClean s g item ∧ ItemsClean g items (RanState.resetItem g s item)

/-- The handover messages that keep the keys. -/
def KeepsKeys (s : N2State) : N2Event → Prop
  | .handoverRequired assoc msg _ _ => ∀ r gc, findHandoverUe s assoc msg = some r →
      s.assoc2gnb assoc = some gc → s.ranid2uecontext ((s.unc r).ranUeNgapId, gc.gnbId) = some r
  | .handoverRequestAck _ _ _ => True
  | .handoverNotify assoc msg => ∀ gc r q, s.assoc2gnb assoc = some gc →
      s.amfueid2uecontext msg.amfUeNgapId = some r →
      s.ranid2uecontext (msg.ranUeNgapId, gc.gnbId) = some q → q = r
  | .ueContextReleaseComplete assoc msg => ∀ gc r q, s.assoc2gnb assoc = some gc →
      s.amfueid2uecontext msg.amfUeNgapId = some r →
      s.ranid2uecontext (msg.ranUeNgapId, gc.gnbId) = some q →
      OwnKey s q (msg.ranUeNgapId, gc.gnbId) →
      (∀ k, s.ranid2uecontext k = some q → k = (msg.ranUeNgapId, gc.gnbId)) ∧
      ∀ a, s.amfueid2uecontext a = some q → a = msg.amfUeNgapId ∧
        ¬ ((s.unc r).releaseCause = successfulHandover ∧ gc.gnbId = (s.unc r).releaseGnb)

/-- The events that keep the tables consistent, in the state they find. -/
def KeepsTables (s : RanState) : NgapEvent → Prop
  | .setup assoc req => ∀ gc g, s.n2.assoc2gnb assoc = some gc → req.gnbId = some g →
      (g = gc.gnbId ∨ ∀ r, Held s.n2 r → (s.n2.unc r).gnbAssocId ≠ assoc) ∧
      (req.accepted = true → req.uesRetained = false →
        ReleaseClean (s.setGnb assoc { gc with gnbId := g }).n2 assoc g)
  | .reset assoc => ∀ gc, s.n2.assoc2gnb assoc = some gc → ReleaseClean s.n2 assoc gc.gnbId
  | .resetPart assoc items => ∀ gc, s.n2.assoc2gnb assoc = some gc → ItemsClean gc.gnbId items s.n2
  | .shutdown assoc => s.n2.assoc2gnb assoc = none
  | .nasEstablishment ran gnbId _ => ∀ r a, s.n2.ranid2uecontext (ran, gnbId) = some r →
      s.n2.amfueid2uecontext a = some r → a = s.generateAmfUeNgapId
  | .dlNasTransport msg => ∀ r a,
      s.n2.ranUeId2UeNgapContext msg.ranUeNgapId msg.amfUeNgapId = some r →
      s.n2.amfueid2uecontext a = some r → a = msg.amfUeNgapId
  | .n2 e => KeepsKeys s.n2 e
  | _ => True

/-! ## Removing contexts -/

/-- Only the two tables changed, and contexts may be gone. -/
structure Kept (s s' : N2State) : Prop where
  uncs : s'.uncs = s.uncs
  assoc2gnb : s'.assoc2gnb = s.assoc2gnb
  ueContexts : s'.ueContexts = s.ueContexts
  ncs : s'.nas.ncs = s.nas.ncs
  nas : ∀ a n, s'.nas.amfueid2nasContext a = some n → s.nas.amfueid2nasContext a = some n
  held : ∀ r, Held s' r → Held s r

namespace Kept

variable {s s' s'' : N2State}

theorem refl (s : N2State) : Kept s s := ⟨rfl, rfl, rfl, rfl, fun _ _ => id, fun _ => id⟩

theorem trans (h : Kept s s') (h' : Kept s' s'') : Kept s s'' :=
  ⟨h'.uncs.trans h.uncs, h'.assoc2gnb.trans h.assoc2gnb, h'.ueContexts.trans h.ueContexts,
    h'.ncs.trans h.ncs, fun a n hn => h.nas a n (h'.nas a n hn), fun r hr => h.held r (h'.held r hr)⟩

theorem unc (h : Kept s s') (r : ℕ) : s'.unc r = s.unc r := by
  unfold N2State.unc
  rw [h.uncs]

theorem nc (h : Kept s s') (n : ℕ) : s'.nas.nc n = s.nas.nc n := by
  unfold NasMaps.nc
  rw [h.ncs]

theorem ownKey (h : Kept s s') {r : ℕ} {k : UInt32 × UInt32} : OwnKey s' r k ↔ OwnKey s r k := by
  unfold OwnKey
  rw [h.unc, h.assoc2gnb]

theorem ofGnb (h : Kept s s') {r : ℕ} {g : UInt32} : OfGnb s' g r ↔ OfGnb s g r := by
  unfold OfGnb
  rw [h.unc, h.assoc2gnb]

end Kept

/-- The contexts in `P` are removed from both tables, the others stay. -/
structure Cut (P : ℕ → Prop) (s s' : N2State) : Prop extends Kept s s' where
  gone : ∀ r, P r → ¬ Held s' r
  amf : ∀ a q, ¬ P q → (s'.amfueid2uecontext a = some q ↔ s.amfueid2uecontext a = some q)
  ran : ∀ k q, ¬ P q → (s'.ranid2uecontext k = some q ↔ s.ranid2uecontext k = some q)

namespace Cut

variable {P Q : ℕ → Prop} {s s' s'' : N2State}

theorem refl (s : N2State) : Cut (fun _ => False) s s where
  toKept := .refl s
  gone _ h := h.elim
  amf _ _ _ := Iff.rfl
  ran _ _ _ := Iff.rfl

theorem congr (h : Cut P s s') (hPQ : ∀ r, Q r ↔ P r) : Cut Q s s' where
  toKept := h.toKept
  gone r hr := h.gone r ((hPQ r).mp hr)
  amf a q hq := h.amf a q fun hp => hq ((hPQ q).mpr hp)
  ran k q hq := h.ran k q fun hp => hq ((hPQ q).mpr hp)

theorem amf_of (h : Cut P s s') {a : UInt64} {r : ℕ} (hr : s'.amfueid2uecontext a = some r) :
    ¬ P r ∧ s.amfueid2uecontext a = some r := by
  have hP : ¬ P r := fun hP => h.gone r hP (.inl ⟨a, hr⟩)
  exact ⟨hP, (h.amf a r hP).mp hr⟩

theorem ran_of (h : Cut P s s') {k : UInt32 × UInt32} {r : ℕ}
    (hr : s'.ranid2uecontext k = some r) : ¬ P r ∧ s.ranid2uecontext k = some r := by
  have hP : ¬ P r := fun hP => h.gone r hP (.inr ⟨k, hr⟩)
  exact ⟨hP, (h.ran k r hP).mp hr⟩

theorem held_of (h : Cut P s s') {r : ℕ} (hr : Held s' r) : ¬ P r ∧ Held s r := by
  rcases hr with ⟨a, ha⟩ | ⟨k, hk⟩
  · exact ⟨(h.amf_of ha).1, .inl ⟨a, (h.amf_of ha).2⟩⟩
  · exact ⟨(h.ran_of hk).1, .inr ⟨k, (h.ran_of hk).2⟩⟩

theorem trans (h : Cut P s s') (h' : Cut Q s' s'') : Cut (fun r => P r ∨ Q r) s s'' where
  toKept := h.toKept.trans h'.toKept
  gone r hr hheld := by
    obtain ⟨hQ, hheld⟩ := h'.held_of hheld
    exact h.gone r (hr.resolve_right hQ) hheld
  amf a q hq := (h'.amf a q fun hQ => hq (.inr hQ)).trans (h.amf a q fun hP => hq (.inl hP))
  ran k q hq := (h'.ran k q fun hQ => hq (.inr hQ)).trans (h.ran k q fun hP => hq (.inl hP))

theorem untouched (h : Cut P s s') {r : ℕ} (hr : ¬ P r) : Untouched s s' r :=
  ⟨h.unc r, fun a => h.amf a r hr, fun k => h.ran k r hr⟩

theorem own (h : Cut P s s') {r : ℕ} (hP : ¬ P r) (hr : Own s r) : Own s' r := by
  obtain ⟨k, hk, hran⟩ := hr
  exact ⟨k, h.ownKey.mpr hk, (h.ran k r hP).mpr hran⟩

theorem ctxKeyed (h : Cut P s s') (hs : CtxKeyed s) : CtxKeyed s' := by
  intro a r hr
  obtain ⟨hP, hr⟩ := h.amf_of hr
  rw [h.unc]
  exact ⟨(hs a r hr).1, h.own hP (hs a r hr).2⟩

end Cut

/-! ## One removal -/

namespace N2State

variable (s : N2State)

theorem removeNas_kept (amf : UInt64) : Kept s (s.removeNas amf) := by
  unfold removeNas
  split
  · exact .refl s
  · exact ⟨rfl, rfl, rfl, rfl, fun a n hn => (update_none_eq_some.mp hn).1, fun _ => id⟩

@[simp] theorem removeNas_amfueid2uecontext (amf : UInt64) :
    (s.removeNas amf).amfueid2uecontext = s.amfueid2uecontext := by
  unfold removeNas
  split <;> rfl

@[simp] theorem removeNas_ranid2uecontext (amf : UInt64) :
    (s.removeNas amf).ranid2uecontext = s.ranid2uecontext := by
  unfold removeNas
  split <;> rfl

theorem removeAmfUeNgapId_kept (amf : UInt64) : Kept s (s.removeAmfUeNgapId2UeNgapContext amf) := by
  refine ⟨rfl, rfl, rfl, rfl, fun _ _ => id, ?_⟩
  rintro r (⟨a, h⟩ | hk)
  · exact .inl ⟨a, (update_none_eq_some.mp h).1⟩
  · exact .inr hk

theorem removeRanUeNgapId_kept (key : UInt32 × UInt32) :
    Kept s (s.removeRanUeNgapId2NgapContext key) := by
  refine ⟨rfl, rfl, rfl, rfl, fun _ _ => id, ?_⟩
  rintro r (ha | ⟨k, h⟩)
  · exact .inl ha
  · exact .inr ⟨k, (update_none_eq_some.mp h).1⟩

theorem removeWithAmf_kept (amf : UInt64) : Kept s (s.removeUeContextWithAmfUeNgapId amf) := by
  unfold removeUeContextWithAmfUeNgapId
  split
  · exact s.removeAmfUeNgapId_kept amf
  · split
    · exact s.removeNas_kept amf
    · exact ((s.removeNas_kept amf).trans (removeRanUeNgapId_kept _ _)).trans
        (removeAmfUeNgapId_kept _ _)

theorem removeWithRan_kept (ran gnbId : UInt32) :
    Kept s (s.removeUeContextWithRanUeNgapId ran gnbId) := by
  unfold removeUeContextWithRanUeNgapId
  split
  · exact .refl s
  · exact ((s.removeNas_kept _).trans (removeAmfUeNgapId_kept _ _)).trans
      (removeRanUeNgapId_kept _ _)

variable {s}

theorem removeWithRan_tables {ran gnbId : UInt32} {r : ℕ}
    (h : s.ranid2uecontext (ran, gnbId) = some r) :
    (s.removeUeContextWithRanUeNgapId ran gnbId).amfueid2uecontext =
        Function.update s.amfueid2uecontext (s.unc r).amfUeNgapId none ∧
      (s.removeUeContextWithRanUeNgapId ran gnbId).ranid2uecontext =
        Function.update s.ranid2uecontext (ran, gnbId) none := by
  simp [removeUeContextWithRanUeNgapId, h, removeRanUeNgapId2NgapContext,
    removeAmfUeNgapId2UeNgapContext]

theorem removeWithRan_of_none {ran gnbId : UInt32} (h : s.ranid2uecontext (ran, gnbId) = none) :
    s.removeUeContextWithRanUeNgapId ran gnbId = s := by
  simp only [removeUeContextWithRanUeNgapId, h]

theorem removeWithAmf_tables {amf : UInt64} {n : ℕ} {uc : UeContext}
    (hn : s.nas.amfueid2nasContext amf = some n)
    (huc : s.ueContexts ((s.nas.nc n).ranUeNgapId, amf) = some uc) :
    (s.removeUeContextWithAmfUeNgapId amf).amfueid2uecontext =
        Function.update s.amfueid2uecontext amf none ∧
      (s.removeUeContextWithAmfUeNgapId amf).ranid2uecontext =
        Function.update s.ranid2uecontext ((s.nas.nc n).ranUeNgapId, uc.gnbId) none := by
  simp [removeUeContextWithAmfUeNgapId, hn, huc, removeRanUeNgapId2NgapContext,
    removeAmfUeNgapId2UeNgapContext]

theorem removeWithAmf_tables_of_none {amf : UInt64}
    (h : ∀ n uc, s.nas.amfueid2nasContext amf = some n →
      s.ueContexts ((s.nas.nc n).ranUeNgapId, amf) ≠ some uc) :
    ((s.removeUeContextWithAmfUeNgapId amf).amfueid2uecontext = s.amfueid2uecontext ∨
        (s.removeUeContextWithAmfUeNgapId amf).amfueid2uecontext =
          Function.update s.amfueid2uecontext amf none) ∧
      (s.removeUeContextWithAmfUeNgapId amf).ranid2uecontext = s.ranid2uecontext := by
  unfold removeUeContextWithAmfUeNgapId
  cases hn : s.nas.amfueid2nasContext amf with
  | none => exact ⟨.inr rfl, rfl⟩
  | some n =>
    cases huc : s.ueContexts ((s.nas.nc n).ranUeNgapId, amf) with
    | none => simp [huc]
    | some uc => exact absurd huc (h n uc hn)

end N2State

/-! ## The contexts of an association -/

/-- A context that a turn of the loop removes, and nothing else with it. -/
structure Ready (s : N2State) (g : UInt32) (r : ℕ) : Prop where
  key : s.ranid2uecontext ((s.unc r).ranUeNgapId, g) = some r
  own : ∀ k, s.ranid2uecontext k = some r → k = ((s.unc r).ranUeNgapId, g)
  amf : ∀ a, s.amfueid2uecontext a = some r → a = (s.unc r).amfUeNgapId
  alone : ∀ q, s.amfueid2uecontext (s.unc r).amfUeNgapId = some q → q = r
  nas : ∀ n uc q, s.nas.amfueid2nasContext (s.unc r).amfUeNgapId = some n →
    s.ueContexts ((s.nas.nc n).ranUeNgapId, (s.unc r).amfUeNgapId) = some uc →
    s.ranid2uecontext ((s.nas.nc n).ranUeNgapId, uc.gnbId) = some q → q = r

section

variable {s s' : N2State} {g : UInt32} {r : ℕ}

theorem Ready.of_cut {P : ℕ → Prop} (h : Cut P s s') (hP : ¬ P r) (hr : Ready s g r) :
    Ready s' g r where
  key := by
    rw [h.unc]
    exact (h.ran _ r hP).mpr hr.key
  own k hk := by
    rw [h.unc]
    exact hr.own k (h.ran_of hk).2
  amf a ha := by
    rw [h.unc]
    exact hr.amf a (h.amf_of ha).2
  alone q hq := by
    rw [h.unc] at hq
    exact hr.alone q (h.amf_of hq).2
  nas n uc q hn huc hq := by
    rw [h.unc] at hn huc
    rw [h.nc] at huc hq
    rw [h.ueContexts] at huc
    exact hr.nas n uc q (h.nas _ n hn) huc (h.ran_of hq).2

theorem releaseUe_kept : Kept s (s.releaseUe g r) :=
  (s.removeWithAmf_kept _).trans (N2State.removeWithRan_kept _ _ _)

theorem releaseUes_kept (l : List ℕ) : Kept s (l.foldl (fun s r => s.releaseUe g r) s) := by
  induction l generalizing s with
  | nil => exact .refl s
  | cons r l ih => exact releaseUe_kept.trans ih

theorem releaseUe_tables (hr : Ready s g r) :
    (s.releaseUe g r).amfueid2uecontext =
        Function.update s.amfueid2uecontext (s.unc r).amfUeNgapId none ∧
      (s.releaseUe g r).ranid2uecontext =
        Function.update s.ranid2uecontext ((s.unc r).ranUeNgapId, g) none := by
  have hu : (s.removeUeContextWithAmfUeNgapId (s.unc r).amfUeNgapId).unc r = s.unc r :=
    (s.removeWithAmf_kept _).unc r
  -- where the first removal leaves `ranid2uecontext` alone, the second finds both keys
  have second (hran : (s.removeUeContextWithAmfUeNgapId (s.unc r).amfUeNgapId).ranid2uecontext =
      s.ranid2uecontext)
      (hamf : (s.removeUeContextWithAmfUeNgapId (s.unc r).amfUeNgapId).amfueid2uecontext =
          s.amfueid2uecontext ∨
        (s.removeUeContextWithAmfUeNgapId (s.unc r).amfUeNgapId).amfueid2uecontext =
          Function.update s.amfueid2uecontext (s.unc r).amfUeNgapId none) :
      (s.releaseUe g r).amfueid2uecontext =
          Function.update s.amfueid2uecontext (s.unc r).amfUeNgapId none ∧
        (s.releaseUe g r).ranid2uecontext =
          Function.update s.ranid2uecontext ((s.unc r).ranUeNgapId, g) none := by
    have hkey := hr.key
    rw [← hran] at hkey
    obtain ⟨ha, hk⟩ := N2State.removeWithRan_tables hkey
    rw [hu] at ha
    rw [hran] at hk
    refine ⟨ha.trans ?_, hk⟩
    rcases hamf with hamf | hamf
    · rw [hamf]
    · rw [hamf, Function.update_idem]
  by_cases h : ∃ n uc, s.nas.amfueid2nasContext (s.unc r).amfUeNgapId = some n ∧
      s.ueContexts ((s.nas.nc n).ranUeNgapId, (s.unc r).amfUeNgapId) = some uc
  · obtain ⟨n, uc, hn, huc⟩ := h
    obtain ⟨ha, hk⟩ := N2State.removeWithAmf_tables hn huc
    cases hq : s.ranid2uecontext ((s.nas.nc n).ranUeNgapId, uc.gnbId) with
    | none =>
      rw [update_none_of_none hq] at hk
      exact second hk (.inr ha)
    | some q =>
      -- the key of the UE context is that of the context itself
      obtain rfl := hr.nas n uc q hn huc hq
      rw [hr.own _ hq] at hk
      have hgone : (s.removeUeContextWithAmfUeNgapId (s.unc q).amfUeNgapId).ranid2uecontext
          ((s.unc q).ranUeNgapId, g) = none := by
        rw [hk, Function.update_self]
      unfold N2State.releaseUe
      rw [N2State.removeWithRan_of_none hgone]
      exact ⟨ha, hk⟩
  · obtain ⟨ha, hk⟩ := N2State.removeWithAmf_tables_of_none
      fun n uc hn huc => h ⟨n, uc, hn, huc⟩
    exact second hk ha

/-- **One turn of the loop.** -/
theorem releaseUe_cut (hr : Ready s g r) : Cut (· = r) s (s.releaseUe g r) where
  toKept := releaseUe_kept
  gone q hq hheld := by
    obtain rfl : q = r := hq
    obtain ⟨ha, hk⟩ := releaseUe_tables hr
    rcases hheld with ⟨a, h⟩ | ⟨k, h⟩
    · rw [ha, update_none_eq_some] at h
      exact h.2 (hr.amf a h.1)
    · rw [hk, update_none_eq_some] at h
      exact h.2 (hr.own k h.1)
  amf a q hq := by
    rw [(releaseUe_tables hr).1, update_none_eq_some]
    refine and_iff_left_of_imp ?_
    rintro h rfl
    exact hq (hr.alone q h)
  ran k q hq := by
    rw [(releaseUe_tables hr).2, update_none_eq_some]
    refine and_iff_left_of_imp ?_
    rintro h rfl
    exact hq (Option.some.inj (h.symm.trans hr.key))

/-- **The loop.** -/
theorem releaseUes_cut {l : List ℕ} (hl : l.Nodup) (h : ∀ r ∈ l, Ready s g r) :
    Cut (· ∈ l) s (l.foldl (fun s r => s.releaseUe g r) s) := by
  induction l generalizing s with
  | nil => exact (Cut.refl s).congr fun _ => by simp
  | cons r l ih =>
    obtain ⟨hrl, hl⟩ := List.nodup_cons.mp hl
    have hone := releaseUe_cut (h r List.mem_cons_self)
    have hrest : ∀ q ∈ l, Ready (s.releaseUe g r) g q := by
      intro q hq
      refine (h q (List.mem_cons_of_mem r hq)).of_cut hone ?_
      rintro rfl
      exact hrl hq
    exact (hone.trans (ih hl hrest)).congr fun _ => List.mem_cons

end

section

variable {s : RanState} {assoc : SctpAssocId} {g : UInt32}

theorem mem_getUeNgapContexts (hkeys : ∀ k r, s.n2.ranid2uecontext k = some r → k ∈ s.ranKeys)
    {r : ℕ} : r ∈ s.getUeNgapContexts assoc ↔
      (∃ k, s.n2.ranid2uecontext k = some r) ∧ (s.n2.unc r).gnbAssocId = assoc := by
  simp only [RanState.getUeNgapContexts, List.mem_filter, List.mem_filterMap,
    List.mem_insertionSort, List.mem_dedup, decide_eq_true_eq]
  constructor
  · rintro ⟨⟨k, -, hk⟩, ha⟩
    exact ⟨⟨k, hk⟩, ha⟩
  · rintro ⟨⟨k, hk⟩, ha⟩
    exact ⟨⟨k, hkeys k r hk, hk⟩, ha⟩

theorem nodup_getUeNgapContexts
    (hown : ∀ k r, s.n2.ranid2uecontext k = some r → (s.n2.unc r).gnbAssocId = assoc →
      k = ((s.n2.unc r).ranUeNgapId, g)) : (s.getUeNgapContexts assoc).Nodup := by
  unfold RanState.getUeNgapContexts
  rw [List.filter_filterMap]
  refine List.Nodup.filterMap ?_ ((List.perm_insertionSort _ _).nodup_iff.mpr (List.nodup_dedup _))
  intro k k' r hk hk'
  simp only [Option.mem_def, Option.filter_eq_some_iff, decide_eq_true_eq] at hk hk'
  rw [hown k r hk.1 hk.2, hown k' r hk'.1 hk'.2]

/-- **All contexts of an association are removed, and no others.** -/
theorem releaseUeContexts_cut
    (hkeys : ∀ k r, s.n2.ranid2uecontext k = some r → k ∈ s.ranKeys) (hs : CtxKeyed s.n2)
    (hc : ReleaseClean s.n2 assoc g) :
    Cut (fun r => (∃ k, s.n2.ranid2uecontext k = some r) ∧ (s.n2.unc r).gnbAssocId = assoc) s.n2
      (s.releaseUeContexts assoc g).n2 := by
  refine (releaseUes_cut (nodup_getUeNgapContexts hc.own) ?_).congr fun r =>
    (mem_getUeNgapContexts hkeys).symm
  intro r hr
  obtain ⟨⟨k, hk⟩, ha⟩ := (mem_getUeNgapContexts hkeys).mp hr
  exact {
    key := by rw [← hc.own k r hk ha]; exact hk
    own := fun k hk => hc.own k r hk ha
    amf := fun a h => (hs a r h).1.symm
    alone := fun q => hc.amf k r q hk ha
    nas := fun n uc q => hc.nas k r n uc q hk ha }

end

theorem Cut.released {s s' : N2State} {assoc : SctpAssocId} {gc : GnbContext}
    (hgc : s.assoc2gnb assoc = some gc) (hs : CtxKeyed s) (hc : ReleaseClean s assoc gc.gnbId)
    (h : Cut (fun r => (∃ k, s.ranid2uecontext k = some r) ∧ (s.unc r).gnbAssocId = assoc) s s') :
    Released s s' gc.gnbId where
  gone r hr hof := by
    obtain ⟨hP, hheld⟩ := h.held_of hr
    refine hP ⟨?_, hc.only r hheld (h.ofGnb.mp hof)⟩
    rcases hheld with ⟨a, ha⟩ | hk
    · obtain ⟨k, -, hk⟩ := (hs a r ha).2
      exact ⟨k, hk⟩
    · exact hk
  kept r hof := by
    refine h.untouched fun hP => hof (h.ofGnb.mpr ⟨gc, ?_, rfl⟩)
    rw [hP.2, hgc]

/-! ## The items of a partial reset -/

section

variable {s s' : N2State} {g : UInt32}

theorem Cut.itemTarget {P : ℕ → Prop} (h : Cut P s s') {item : UeConnectionItem} {r : ℕ} :
    itemTarget s' g item = some r ↔ ¬ P r ∧ itemTarget s g item = some r := by
  unfold Amf.itemTarget
  rcases item with ⟨_ | amf, ran⟩
  · cases ran with
    | none => simp
    | some ran => exact ⟨h.ran_of, fun hr => (h.ran _ r hr.1).mpr hr.2⟩
  · exact ⟨h.amf_of, fun hr => (h.amf _ r hr.1).mpr hr.2⟩

theorem resetItem_kept (item : UeConnectionItem) : Kept s (RanState.resetItem g s item) := by
  rcases item with ⟨_ | amf, _ | ran⟩
  · exact .refl s
  · exact s.removeWithRan_kept ran g
  · exact s.removeWithAmf_kept amf
  · exact s.removeWithAmf_kept amf

theorem resetItems_kept (items : List UeConnectionItem) :
    Kept s (items.foldl (RanState.resetItem g) s) := by
  induction items generalizing s with
  | nil => exact .refl s
  | cons item items ih => exact (resetItem_kept item).trans ih

/-- **One item.** -/
theorem resetItem_cut {item : UeConnectionItem} (hs : CtxKeyed s) (hc : ItemClean s g item) :
    Cut (fun r => itemTarget s g item = some r) s (RanState.resetItem g s item) := by
  rcases item with ⟨_ | amf, ran⟩
  · cases ran with
    | none => exact (Cut.refl s).congr fun r => by simp [itemTarget]
    | some ran =>
      simp only [ItemClean] at hc
      cases hr : s.ranid2uecontext (ran, g) with
      | none =>
        simp only [RanState.resetItem, itemTarget, N2State.removeWithRan_of_none hr, hr]
        exact (Cut.refl s).congr fun r => by simp
      | some r =>
        obtain ⟨ha, hk⟩ := N2State.removeWithRan_tables hr
        obtain ⟨hown, halone⟩ := hc r hr
        simp only [RanState.resetItem, itemTarget, hr, Option.some.injEq]
        refine ⟨N2State.removeWithRan_kept _ _ _, ?_, fun a q hq => ?_, fun k q hq => ?_⟩
        · rintro q rfl (⟨a, h⟩ | ⟨k, h⟩)
          · rw [ha, update_none_eq_some] at h
            exact h.2 (hs a r h.1).1.symm
          · rw [hk, update_none_eq_some] at h
            exact h.2 (hown k h.1)
        · rw [ha, update_none_eq_some]
          refine and_iff_left_of_imp ?_
          rintro h rfl
          exact hq (halone q h).symm
        · rw [hk, update_none_eq_some]
          refine and_iff_left_of_imp ?_
          rintro h rfl
          exact hq (Option.some.inj (hr.symm.trans h))
  · simp only [ItemClean] at hc
    obtain ⟨hfound, halone⟩ := hc
    have hkept := s.removeWithAmf_kept amf
    by_cases h : ∃ n uc, s.nas.amfueid2nasContext amf = some n ∧
        s.ueContexts ((s.nas.nc n).ranUeNgapId, amf) = some uc
    · obtain ⟨n, uc, hn, huc⟩ := h
      obtain ⟨ha, hk⟩ := N2State.removeWithAmf_tables hn huc
      refine ⟨hkept, ?_, fun a q hq => ?_, fun k q hq => ?_⟩
      · rintro r hr (⟨a, h⟩ | ⟨k, h⟩)
        · simp only [RanState.resetItem, ha, update_none_eq_some] at h
          exact h.2 ((hs a r h.1).1.symm.trans (hs amf r hr).1)
        · simp only [RanState.resetItem, hk, update_none_eq_some] at h
          obtain ⟨n', uc', hn', huc', hown⟩ := hfound r hr
          rw [hn] at hn'
          cases hn'
          rw [huc] at huc'
          cases huc'
          exact h.2 (hown k h.1)
      · simp only [RanState.resetItem, ha, update_none_eq_some]
        refine and_iff_left_of_imp ?_
        rintro h rfl
        exact hq h
      · simp only [RanState.resetItem, hk, update_none_eq_some]
        refine and_iff_left_of_imp ?_
        rintro h rfl
        exact hq (halone n uc q hn huc h)
    · -- without these the item names no context
      have hnone : s.amfueid2uecontext amf = none := by
        cases hr : s.amfueid2uecontext amf with
        | none => rfl
        | some r =>
          obtain ⟨n, uc, hn, huc, -⟩ := hfound r hr
          exact absurd ⟨n, uc, hn, huc⟩ h
      obtain ⟨ha, hk⟩ := N2State.removeWithAmf_tables_of_none
        fun n uc hn huc => h ⟨n, uc, hn, huc⟩
      rw [update_none_of_none hnone, or_self] at ha
      refine ⟨hkept, ?_, fun a q _ => ?_, fun k q _ => ?_⟩
      · intro r hr
        simp only [itemTarget, hnone, reduceCtorEq] at hr
      · simp only [RanState.resetItem, ha]
      · simp only [RanState.resetItem, hk]

/-- **All items.** -/
theorem resetItems_cut {items : List UeConnectionItem} (hs : CtxKeyed s)
    (hc : ItemsClean g items s) :
    Cut (Listed s g items) s (items.foldl (RanState.resetItem g) s) := by
  induction items generalizing s with
  | nil => exact (Cut.refl s).congr fun r => by simp [Listed]
  | cons item items ih =>
    have hone := resetItem_cut hs hc.1
    refine (hone.trans (ih (hone.ctxKeyed hs) hc.2)).congr fun r => ?_
    simp only [Listed, List.mem_cons, exists_eq_or_imp, hone.itemTarget]
    constructor
    · rintro (h | ⟨item', hmem, h⟩)
      · exact .inl h
      · by_cases hr : itemTarget s g item = some r
        · exact .inl hr
        · exact .inr ⟨item', hmem, hr, h⟩
    · rintro (h | ⟨item', hmem, -, h⟩)
      · exact .inl h
      · exact .inr ⟨item', hmem, h⟩

theorem Cut.releasedPart {items : List UeConnectionItem} (h : Cut (Listed s g items) s s') :
    ReleasedPart s s' g items where
  gone := h.gone
  kept _ hr := h.untouched hr

end

end Oai5g.Amf
