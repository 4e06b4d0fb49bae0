import Oai5g.Common.Conversions
import Oai5g.Lib.Run

/-!
# 5G-AKA at the AUSF

* `handleUeAuthentications`, `handleUeAuthenticationsConfirmation`: one security context for each SUPI, found by
  SUPI and by each AUTN it ever had.
* `History`: the latest vector of each SUPI and the vectors whose key is out.
* `Confirms`: what a confirmation has to do.
* **`run_confirms_iff`**: in a run, each confirmation does so exactly when each meets `Fresh`.
-/

namespace Oai5g.Ausf

/-! ## Data -/

/-- `security_context` -/
structure SecurityContext where
  rand : List UInt8
  autn : List UInt8
  hxresStar : List UInt8
  kseaf : List UInt8
  xresStar : List UInt8
  supiAusf : Str
  authType : Str
  servingNn : Str
  kausfTmp : Str
deriving DecidableEq

/-- An array of zeros. -/
def zeros (n : ℕ) : List UInt8 := List.replicate n 0

@[simp]
theorem length_zeros (n : ℕ) : (zeros n).length = n := List.length_replicate

/-- `security_context::security_context` -/
def SecurityContext.new : SecurityContext :=
  ⟨zeros 16, zeros 16, zeros 16, zeros 32, zeros 16, [], [], [], []⟩

/-- `ausf_app`, as far as 5G-AKA needs it. -/
structure AusfApp where
  scs : Heap SecurityContext
  supi2SecurityContext : Str → Option ℕ
  contextId2SecurityContext : Str → Option ℕ

/-- No context is stored. -/
def AusfApp.init : AusfApp := ⟨⟨fun _ => .new, 0⟩, fun _ => none, fun _ => none⟩

/-- The vector of the UDM. Its message has the octets in hexadecimal. -/
structure UdmVector where
  authType : Str
  autn : Vector UInt8 16
  rand : Vector UInt8 16
  xresStar : Vector UInt8 16
  kausf : Vector UInt8 32

/-- What comes from the UDM. -/
inductive UdmResponse
  | unreachable
  | unparsable
  | vector (v : UdmVector)

/-- The derivations of `Authentication_5gaka`. -/
structure Derivations where
  generateHxres : List UInt8 → List UInt8 → List UInt8
  deriveKseaf : Str → List UInt8 → List UInt8

/-- A problem as it is told. -/
structure ProblemDetails where
  cause : String
  status : ℕ
  detail : String
deriving DecidableEq

/-- What the AMF gets for a challenge. -/
structure UEAuthenticationCtx where
  authType : Str
  rand : Str
  autn : Str
  hxresStar : Str
  authCtxId : Str
deriving DecidableEq

/-- What the AMF gets for a confirmation. -/
structure ConfirmationDataResponse where
  authResult : Bool
  supi : Option Str
  kseaf : Option Str
deriving DecidableEq

/-- `confirmResultInfo`, with the SUPI of its URI. -/
structure ConfirmResultInfo where
  supi : Str
  authType : Str
  servingNetworkName : Str
deriving DecidableEq

/-- The body of an answer. -/
inductive Json
  | null
  | problem (p : ProblemDetails)
  | authCtx (c : UEAuthenticationCtx)
  | confirmation (r : ConfirmationDataResponse)
deriving DecidableEq

/-- The code and the body of an answer and the message to the UDM. The caller starts from code 0 and no body. -/
structure Answer where
  code : ℕ
  jsonData : Json
  confirmResultInfo : Option ConfirmResultInfo
deriving DecidableEq

/-- The key in an answer. -/
def Answer.kseaf (a : Answer) : Option Str :=
  match a.jsonData with
  | .confirmation r => r.kseaf
  | _ => none

/-- The SUPI in an answer. -/
def Answer.supi (a : Answer) : Option Str :=
  match a.jsonData with
  | .confirmation r => r.supi
  | _ => none

/-! ## The source -/

/-- The security context of a SUPI, a new one where there is none. -/
def findOrCreate (supi : Str) (app : AusfApp) : AusfApp × ℕ :=
  match app.supi2SecurityContext supi with
  | some sc => (app, sc)
  | none =>
    ({ app with
        scs := (app.scs.alloc .new).1
        supi2SecurityContext := Function.update app.supi2SecurityContext supi (some app.scs.next) },
      app.scs.next)

/-- `ausf_app::handle_ue_authentications`; `none` when an array overflows. -/
def handleUeAuthentications (D : Derivations) (snn supi : Str) (udm : UdmResponse) (app : AusfApp) :
    Option (AusfApp × Answer) :=
  match udm with
  | .unreachable => some (app, ⟨500, .problem ⟨"UPSTREAM_SERVER_ERROR", 504, ""⟩, none⟩)
  | .unparsable =>
    some (app, ⟨404, .problem ⟨"CONTEXT_NOT_FOUND", 404,
      "Resource corresponding to User " ++ String.ofList supi ++ " not found"⟩, none⟩)
  | .vector v => do
    let autn ← hexStrToUint8 (uint8ToHexString v.autn.toList) (zeros 16)
    let rand ← hexStrToUint8 (uint8ToHexString v.rand.toList) (zeros 16)
    let xresStar ← hexStrToUint8 (uint8ToHexString v.xresStar.toList) (zeros 16)
    let kausf ← hexStrToUint8 (uint8ToHexString v.kausf.toList) (zeros 32)
    let hxresStar := D.generateHxres rand xresStar
    let kseaf := D.deriveKseaf snn kausf
    let (app, sc) := findOrCreate supi app
    let authCtxId := uint8ToHexString autn
    return ({ app with
        scs := app.scs.modify sc fun _ =>
          ⟨rand, autn, hxresStar, kseaf, xresStar, supi, v.authType, snn, uint8ToHexString kausf⟩
        contextId2SecurityContext := Function.update app.contextId2SecurityContext authCtxId (some sc) },
      ⟨201, .authCtx ⟨v.authType, uint8ToHexString rand, uint8ToHexString autn, uint8ToHexString hxresStar,
        authCtxId⟩, none⟩)

/-- `ausf_app::handle_ue_authentications_confirmation`; `none` when an array overflows. `stack` is the array
`authCtxId_seaf` before the call. -/
def handleUeAuthenticationsConfirmation (authCtxId resStar : Str) (stack : Vector UInt8 16) (app : AusfApp) :
    Option (AusfApp × Answer) :=
  match app.contextId2SecurityContext authCtxId with
  | none =>
    some (app, ⟨403, .problem ⟨"SERVING_NETWORK_NOT_AUTHORIZED", 403, "Serving Network Not Authorized"⟩, none⟩)
  | some r => do
    let sc := app.scs.cell r
    let resStar ← hexStrToUint8 resStar (zeros 16)
    let authCtxIdSeaf ← hexStrToUint8 authCtxId stack.toList
    if sc.autn ≠ authCtxIdSeaf then
      -- neither a code nor a body
      return ({ app with scs := app.scs.modify r fun sc => { sc with kausfTmp := "invalid".toList } },
        ⟨0, .null, none⟩)
    else if sc.xresStar ≠ resStar then
      return (app, ⟨403, .problem ⟨"AUTHENTICATION_REJECTED", 403,
        "The user cannot be authenticated with this authentication method"⟩, none⟩)
    else
      return (app, ⟨200, .confirmation ⟨true, if sc.supiAusf = [] then none else some sc.supiAusf,
        some (uint8ToHexString sc.kseaf)⟩, some ⟨sc.supiAusf, sc.authType, sc.servingNn⟩⟩)

/-! ## Runs -/

/-- A vector as the AUSF obtained it. -/
structure Av where
  serial : ℕ
  supi : Str
  snn : Str
  authType : Str
  autn : List UInt8
  xresStar : List UInt8
  kseaf : List UInt8

/-- The latest vector of each SUPI and the vectors whose key is out. -/
structure History where
  latest : Str → Option Av
  next : ℕ
  released : List ℕ

/-- Nothing was asked. -/
def History.init : History := ⟨fun _ => none, 0, []⟩

/-- A vector is obtained. -/
def History.obtain (D : Derivations) (h : History) (snn supi : Str) (v : UdmVector) : History :=
  { h with
    latest := Function.update h.latest supi (some ⟨h.next, supi, snn, v.authType, v.autn.toList, v.xresStar.toList,
      D.deriveKseaf snn v.kausf.toList⟩)
    next := h.next + 1 }

/-- An answer goes out. -/
def History.answer (h : History) (a : Answer) : History :=
  match a.confirmResultInfo with
  | none => h
  | some info => { h with released := ((h.latest info.supi).map (·.serial)).toList ++ h.released }

/-- The AUSF with what happened. -/
structure System where
  app : AusfApp
  history : History

/-- The AUSF at its start. -/
def System.init : System := ⟨.init, .init⟩

/-- What comes to the AUSF. -/
inductive Event
  | ueAuthentications (snn supi : Str) (udm : UdmResponse)
  | confirmation (authCtxId resStar : Str) (stack : Vector UInt8 16)

/-- One request. What follows an overflow is not described. -/
def step (D : Derivations) (s : System) : Event → System
  | .ueAuthentications snn supi udm =>
    match handleUeAuthentications D snn supi udm s.app with
    | none => s
    | some (app, _) =>
      ⟨app, match udm with
        | .vector v => s.history.obtain D snn supi v
        | _ => s.history⟩
  | .confirmation authCtxId resStar stack =>
    match handleUeAuthenticationsConfirmation authCtxId resStar stack s.app with
    | none => s
    | some (app, answer) => ⟨app, s.history.answer answer⟩

/-- What a confirmation has to do. -/
structure Confirms (s : System) (authCtxId resStar : Str) (app : AusfApp) (answer : Answer) : Prop where
  answered : answer.code ≠ 0 ∧ answer.jsonData ≠ .null
  released : ∀ k, answer.kseaf = some k → ∃ av, s.history.latest av.supi = some av ∧
    authCtxId = uint8ToHexString av.autn ∧ IsHexOf resStar av.xresStar ∧
    k = uint8ToHexString av.kseaf ∧ answer.supi = (if av.supi = [] then none else some av.supi) ∧
    answer.confirmResultInfo = some ⟨av.supi, av.authType, av.snn⟩ ∧ av.serial ∉ s.history.released
  frame : answer.kseaf = none → app.supi2SecurityContext = s.app.supi2SecurityContext ∧
    app.contextId2SecurityContext = s.app.contextId2SecurityContext ∧
    ∀ supi av r, s.history.latest supi = some av → authCtxId ≠ uint8ToHexString av.autn →
      s.app.supi2SecurityContext supi = some r → app.scs.cell r = s.app.scs.cell r

/-- The request is handled as it has to be. -/
def Right (s : System) : Event → Prop
  | .ueAuthentications _ _ _ => True
  | .confirmation authCtxId resStar stack =>
    ∃ app answer, handleUeAuthenticationsConfirmation authCtxId resStar stack s.app = some (app, answer) ∧
      Confirms s authCtxId resStar app answer

/-- A confirmation for the current vector of its context, whose RES* fits and is taken for the XRES* only if its
digits are, and not again after the key is out. -/
def Fresh (s : System) : Event → Prop
  | .ueAuthentications _ _ _ => True
  | .confirmation authCtxId resStar _ =>
    ∀ r, s.app.contextId2SecurityContext authCtxId = some r →
      authCtxId = uint8ToHexString (s.app.scs.cell r).autn ∧
      ∃ octets, hexStrToUint8 resStar (zeros 16) = some octets ∧
        (octets = (s.app.scs.cell r).xresStar → IsHexOf resStar (s.app.scs.cell r).xresStar ∧
          ∀ av, s.history.latest (s.app.scs.cell r).supiAusf = some av → av.serial ∉ s.history.released)

/-! ## What holds in every run -/

/-- The context of an obtained vector. -/
def UdmVector.context (D : Derivations) (v : UdmVector) (snn supi : Str) : SecurityContext :=
  ⟨v.rand.toList, v.autn.toList, D.generateHxres v.rand.toList v.xresStar.toList, D.deriveKseaf snn v.kausf.toList,
    v.xresStar.toList, supi, v.authType, snn, uint8ToHexString v.kausf.toList⟩

theorem handleUeAuthentications_vector (D : Derivations) (snn supi : Str) (v : UdmVector) (app : AusfApp) :
    ∃ answer, handleUeAuthentications D snn supi (.vector v) app =
      some ({ (findOrCreate supi app).1 with
        scs := (findOrCreate supi app).1.scs.modify (findOrCreate supi app).2 fun _ => v.context D snn supi
        contextId2SecurityContext := Function.update (findOrCreate supi app).1.contextId2SecurityContext
          (uint8ToHexString v.autn.toList) (some (findOrCreate supi app).2) }, answer) := by
  simp [handleUeAuthentications, UdmVector.context]

/-- The context holds the vector. -/
structure Matches (sc : SecurityContext) (av : Av) : Prop where
  supi : sc.supiAusf = av.supi
  snn : sc.servingNn = av.snn
  authType : sc.authType = av.authType
  autn : sc.autn = av.autn
  xresStar : sc.xresStar = av.xresStar
  kseaf : sc.kseaf = av.kseaf

/-- **The invariant**: the stored contexts are those of the latest vectors. -/
structure Inv (s : System) : Prop where
  /-- The context of a SUPI holds its latest vector. -/
  context : ∀ supi r, s.app.supi2SecurityContext supi = some r →
    r < s.app.scs.next ∧ ∃ av, s.history.latest supi = some av ∧ Matches (s.app.scs.cell r) av
  latest : ∀ supi av, s.history.latest supi = some av →
    av.supi = supi ∧ ∃ r, s.app.supi2SecurityContext supi = some r
  /-- An index by AUTN leads to the context of a SUPI. -/
  contextId : ∀ authCtxId r, s.app.contextId2SecurityContext authCtxId = some r →
    (∃ supi, s.app.supi2SecurityContext supi = some r) ∧
      ∃ a : Vector UInt8 16, authCtxId = uint8ToHexString a.toList

theorem Inv.init : Inv .init where
  context _ _ h := by cases h
  latest _ _ h := by cases h
  contextId _ _ h := by cases h

section

variable {D : Derivations} {s : System}

theorem Inv.supi_unique (hs : Inv s) {supi supi' : Str} {r : ℕ} (h : s.app.supi2SecurityContext supi = some r)
    (h' : s.app.supi2SecurityContext supi' = some r) : supi = supi' := by
  obtain ⟨-, av, hav, hm⟩ := hs.context supi r h
  obtain ⟨-, av', hav', hm'⟩ := hs.context supi' r h'
  rw [← (hs.latest supi av hav).1, ← (hs.latest supi' av' hav').1, ← hm.supi, ← hm'.supi]

theorem Inv.findOrCreate (hs : Inv s) (supi : Str) {app : AusfApp} {r : ℕ} (h : findOrCreate supi s.app = (app, r)) :
    app.supi2SecurityContext = Function.update s.app.supi2SecurityContext supi (some r) ∧
      app.contextId2SecurityContext = s.app.contextId2SecurityContext ∧ r < app.scs.next ∧
      (∀ r', s.app.supi2SecurityContext supi = some r' → r' = r) ∧
      ∀ supi' r', supi' ≠ supi → s.app.supi2SecurityContext supi' = some r' →
        r' ≠ r ∧ r' < app.scs.next ∧ app.scs.cell r' = s.app.scs.cell r' := by
  unfold Ausf.findOrCreate at h
  cases hsupi : s.app.supi2SecurityContext supi with
  | some r₀ =>
    simp only [hsupi, Prod.mk.injEq] at h
    obtain ⟨rfl, rfl⟩ := h
    refine ⟨by rw [← hsupi, Function.update_eq_self], rfl, (hs.context supi r₀ hsupi).1, ?_, ?_⟩
    · intro r' hr'
      exact (Option.some.inj hr').symm
    · intro supi' r' hne hr'
      refine ⟨?_, (hs.context supi' r' hr').1, rfl⟩
      rintro rfl
      exact hne (hs.supi_unique hr' hsupi)
  | none =>
    simp only [hsupi, Prod.mk.injEq] at h
    obtain ⟨rfl, rfl⟩ := h
    refine ⟨rfl, rfl, Nat.lt_succ_self _, ?_, ?_⟩
    · intro r' hr'
      cases hr'
    intro supi' r' _ hr'
    have hlt := (hs.context supi' r' hr').1
    exact ⟨hlt.ne, Nat.lt_succ_of_lt hlt, s.app.scs.alloc_cell_of_ne _ hlt.ne⟩

theorem Inv.obtain (hs : Inv s) (snn supi : Str) (v : UdmVector) :
    Inv (step D s (.ueAuthentications snn supi (.vector v))) := by
  obtain ⟨answer, heq⟩ := handleUeAuthentications_vector D snn supi v s.app
  simp only [step, heq]
  rcases hfind : Ausf.findOrCreate supi s.app with ⟨app, r⟩
  obtain ⟨hmap, hids, hlt, hold, hother⟩ := hs.findOrCreate supi hfind
  constructor
  · intro supi' r' hr'
    simp only [hmap] at hr'
    rcases update_some_eq_some.mp hr' with ⟨rfl, rfl⟩ | ⟨hne, hr'⟩
    · refine ⟨hlt, _, Function.update_self .., ?_⟩
      rw [Heap.modify_cell_self]
      exact ⟨rfl, rfl, rfl, rfl, rfl, rfl⟩
    · obtain ⟨hne', hlt', hcell⟩ := hother supi' r' hne hr'
      obtain ⟨-, av, hav, hm⟩ := hs.context supi' r' hr'
      refine ⟨hlt', av, (Function.update_of_ne hne ..).trans hav, ?_⟩
      rw [Heap.modify_cell_of_ne _ _ _ hne', hcell]
      exact hm
  · intro supi' av hav
    simp only [hmap]
    rcases update_some_eq_some.mp hav with ⟨rfl, rfl⟩ | ⟨hne, hav⟩
    · exact ⟨rfl, r, Function.update_self ..⟩
    · obtain ⟨hsupi, r', hr'⟩ := hs.latest supi' av hav
      exact ⟨hsupi, r', (Function.update_of_ne hne ..).trans hr'⟩
  · intro authCtxId r' hr'
    simp only [hids, hmap] at hr' ⊢
    rcases update_some_eq_some.mp hr' with ⟨rfl, rfl⟩ | ⟨-, hr'⟩
    · exact ⟨⟨supi, Function.update_self ..⟩, v.autn, rfl⟩
    · obtain ⟨⟨supi', hsupi'⟩, ha⟩ := hs.contextId authCtxId r' hr'
      refine ⟨⟨supi', ?_⟩, ha⟩
      by_cases hne : supi' = supi
      · subst hne
        rw [hold r' hsupi', Function.update_self]
      · rw [Function.update_of_ne hne, hsupi']

@[simp]
theorem History.latest_answer (h : History) (a : Answer) : (h.answer a).latest = h.latest := by
  unfold History.answer
  split <;> rfl

theorem confirmation_keeps {authCtxId resStar : Str} {stack : Vector UInt8 16} {app app' : AusfApp} {answer : Answer}
    (h : handleUeAuthenticationsConfirmation authCtxId resStar stack app = some (app', answer)) :
    app'.supi2SecurityContext = app.supi2SecurityContext ∧
      app'.contextId2SecurityContext = app.contextId2SecurityContext ∧ app'.scs.next = app.scs.next ∧
      ∀ r av, Matches (app.scs.cell r) av → Matches (app'.scs.cell r) av := by
  unfold handleUeAuthenticationsConfirmation at h
  cases hr : app.contextId2SecurityContext authCtxId with
  | none =>
    simp only [hr, Option.some.injEq, Prod.mk.injEq] at h
    obtain ⟨rfl, -⟩ := h
    exact ⟨rfl, rfl, rfl, fun _ _ hm => hm⟩
  | some r =>
    simp only [hr, Option.bind_eq_bind, Option.bind_eq_some_iff] at h
    obtain ⟨octets, -, seaf, -, h⟩ := h
    split at h
    · obtain ⟨rfl, -⟩ := Prod.mk.inj (Option.some.inj h)
      refine ⟨rfl, rfl, rfl, fun r' av hm => ?_⟩
      by_cases hne : r' = r
      · subst hne
        rw [Heap.modify_cell_self]
        exact ⟨hm.supi, hm.snn, hm.authType, hm.autn, hm.xresStar, hm.kseaf⟩
      · rw [Heap.modify_cell_of_ne _ _ _ hne]
        exact hm
    · split at h
      · obtain ⟨rfl, -⟩ := Prod.mk.inj (Option.some.inj h)
        exact ⟨rfl, rfl, rfl, fun _ _ hm => hm⟩
      · obtain ⟨rfl, -⟩ := Prod.mk.inj (Option.some.inj h)
        exact ⟨rfl, rfl, rfl, fun _ _ hm => hm⟩

theorem Inv.confirmation (hs : Inv s) (authCtxId resStar : Str) (stack : Vector UInt8 16) :
    Inv (step D s (.confirmation authCtxId resStar stack)) := by
  simp only [step]
  cases h : handleUeAuthenticationsConfirmation authCtxId resStar stack s.app with
  | none => exact hs
  | some p =>
    obtain ⟨app', answer⟩ := p
    obtain ⟨hmap, hids, hnext, hcell⟩ := confirmation_keeps h
    constructor
    · intro supi r hr
      simp only [hmap, hnext, History.latest_answer] at hr ⊢
      obtain ⟨hlt, av, hav, hm⟩ := hs.context supi r hr
      exact ⟨hlt, av, hav, hcell r av hm⟩
    · simpa only [hmap, History.latest_answer] using hs.latest
    · simpa only [hmap, hids] using hs.contextId

theorem Inv.step (hs : Inv s) (e : Event) : Inv (step D s e) := by
  cases e with
  | ueAuthentications snn supi udm =>
    cases udm with
    | unreachable => exact hs
    | unparsable => exact hs
    | vector v => exact hs.obtain snn supi v
  | confirmation authCtxId resStar stack => exact hs.confirmation authCtxId resStar stack

end

/-! ## Confirmations -/

section

variable {s : System} {authCtxId resStar : Str} {stack : Vector UInt8 16}

theorem Inv.authCtxIdSeaf (hs : Inv s) {r : ℕ} (hr : s.app.contextId2SecurityContext authCtxId = some r) :
    ∃ a : List UInt8, authCtxId = uint8ToHexString a ∧ hexStrToUint8 authCtxId stack.toList = some a := by
  obtain ⟨-, a, rfl⟩ := hs.contextId _ _ hr
  exact ⟨a.toList, rfl, by simp⟩

theorem Inv.latest_of_contextId (hs : Inv s) {r : ℕ} (hr : s.app.contextId2SecurityContext authCtxId = some r) :
    ∃ av, s.history.latest av.supi = some av ∧ Matches (s.app.scs.cell r) av ∧
      s.app.supi2SecurityContext av.supi = some r := by
  obtain ⟨⟨supi, hsupi⟩, -⟩ := hs.contextId _ _ hr
  obtain ⟨-, av, hav, hm⟩ := hs.context supi r hsupi
  obtain rfl := (hs.latest supi av hav).1
  exact ⟨av, hav, hm, hsupi⟩

theorem uint8ToHexString_inj {v w : List UInt8} (h : uint8ToHexString v = uint8ToHexString w) : v = w :=
  (isHexOf_uint8ToHexString v).unique (h ▸ isHexOf_uint8ToHexString w)

/-- The handler for a context that is there, by what is read of the RES* and of the index. -/
theorem confirmation_eq {r : ℕ} (hr : s.app.contextId2SecurityContext authCtxId = some r) {octets seaf : List UInt8}
    (hres : hexStrToUint8 resStar (zeros 16) = some octets)
    (hseaf : hexStrToUint8 authCtxId stack.toList = some seaf) :
    handleUeAuthenticationsConfirmation authCtxId resStar stack s.app =
      let sc := s.app.scs.cell r
      if sc.autn ≠ seaf then
        some ({ s.app with scs := s.app.scs.modify r fun sc => { sc with kausfTmp := "invalid".toList } },
          ⟨0, .null, none⟩)
      else if sc.xresStar ≠ octets then
        some (s.app, ⟨403, .problem ⟨"AUTHENTICATION_REJECTED", 403,
          "The user cannot be authenticated with this authentication method"⟩, none⟩)
      else
        some (s.app, ⟨200, .confirmation ⟨true, if sc.supiAusf = [] then none else some sc.supiAusf,
          some (uint8ToHexString sc.kseaf)⟩, some ⟨sc.supiAusf, sc.authType, sc.servingNn⟩⟩) := by
  simp only [handleUeAuthenticationsConfirmation, hr, hres, hseaf, Option.bind_eq_bind, Option.bind_some]
  rfl

theorem confirms_of_refused {answer : Answer} (hcode : answer.code ≠ 0) (hjson : answer.jsonData ≠ .null)
    (hkseaf : answer.kseaf = none) : Confirms s authCtxId resStar s.app answer where
  answered := ⟨hcode, hjson⟩
  released k hk := by rw [hkseaf] at hk; cases hk
  frame _ := ⟨rfl, rfl, fun _ _ _ _ _ _ => rfl⟩

theorem confirms_accepted_iff {r : ℕ} {av : Av} (hav : s.history.latest av.supi = some av)
    (hm : Matches (s.app.scs.cell r) av) (hid : authCtxId = uint8ToHexString av.autn) :
    Confirms s authCtxId resStar s.app
        ⟨200, .confirmation ⟨true, if (s.app.scs.cell r).supiAusf = [] then none else some (s.app.scs.cell r).supiAusf,
          some (uint8ToHexString (s.app.scs.cell r).kseaf)⟩,
          some ⟨(s.app.scs.cell r).supiAusf, (s.app.scs.cell r).authType, (s.app.scs.cell r).servingNn⟩⟩ ↔
      IsHexOf resStar av.xresStar ∧ av.serial ∉ s.history.released := by
  rw [hm.supi, hm.snn, hm.authType, hm.kseaf]
  constructor
  · intro h
    obtain ⟨av', hav', -, hhex, -, -, hinfo, hserial⟩ := h.released _ rfl
    have hsupi : av.supi = av'.supi := congrArg ConfirmResultInfo.supi (Option.some.inj hinfo)
    rw [← hsupi, hav] at hav'
    obtain rfl := Option.some.inj hav'
    exact ⟨hhex, hserial⟩
  · rintro ⟨hhex, hserial⟩
    refine ⟨⟨by simp, by simp⟩, fun k hk => ?_, fun hnone => by cases hnone⟩
    obtain rfl := Option.some.inj hk
    exact ⟨av, hav, hid, hhex, rfl, rfl, rfl, hserial⟩

/-- **The condition is exact for each request.** -/
theorem Inv.right_iff_fresh (hs : Inv s) (e : Event) : Right s e ↔ Fresh s e := by
  cases e with
  | ueAuthentications snn supi udm => exact Iff.rfl
  | confirmation authCtxId resStar stack =>
    cases hr : s.app.contextId2SecurityContext authCtxId with
    | none =>
      refine iff_of_true ⟨s.app, _, by rw [handleUeAuthenticationsConfirmation, hr], ?_⟩ ?_
      · exact confirms_of_refused (by simp) (by simp) rfl
      · intro r hr'
        rw [hr] at hr'
        cases hr'
    | some r =>
      obtain ⟨a, hid, hseaf⟩ : ∃ a, authCtxId = uint8ToHexString a ∧ hexStrToUint8 authCtxId stack.toList = some a :=
        hs.authCtxIdSeaf hr
      obtain ⟨av, hav, hm, -⟩ := hs.latest_of_contextId hr
      simp only [Right, Fresh, hr, Option.some.injEq, forall_eq']
      cases hres : hexStrToUint8 resStar (zeros 16) with
      | none =>
        refine iff_of_false ?_ ?_
        · rintro ⟨app', answer, h, -⟩
          simp only [handleUeAuthenticationsConfirmation, hr, hres, Option.bind_eq_bind, Option.bind_none] at h
          cases h
        · rintro ⟨-, octets, h, -⟩
          cases h
      | some octets =>
        rw [confirmation_eq hr hres hseaf]
        by_cases hseaf' : (s.app.scs.cell r).autn = a
        · have hid' : authCtxId = uint8ToHexString av.autn := by rw [hid, ← hseaf', hm.autn]
          by_cases hxres : (s.app.scs.cell r).xresStar = octets
          · simp only [ne_eq, hseaf', not_true_eq_false, if_false, hxres, Option.some.injEq, Prod.mk.injEq]
            rw [← hid, ← hxres]
            constructor
            · rintro ⟨_, _, ⟨rfl, rfl⟩, h⟩
              obtain ⟨hhex, hserial⟩ := (confirms_accepted_iff hav hm hid').mp h
              refine ⟨rfl, _, rfl, fun _ => ⟨hm.xresStar ▸ hhex, fun av' hav' => ?_⟩⟩
              rw [hm.supi, hav] at hav'
              obtain rfl := Option.some.inj hav'
              exact hserial
            · rintro ⟨-, _, rfl, h⟩
              obtain ⟨hhex, hserial⟩ := h rfl
              refine ⟨_, _, ⟨rfl, rfl⟩, (confirms_accepted_iff hav hm hid').mpr ⟨hm.xresStar ▸ hhex, ?_⟩⟩
              exact hserial av (hm.supi.symm ▸ hav)
          · simp only [ne_eq, hseaf', not_true_eq_false, if_false, hxres, not_false_eq_true, if_true]
            refine iff_of_true ⟨_, _, rfl, confirms_of_refused (by simp) (by simp) rfl⟩ ⟨hid, octets, rfl, ?_⟩
            intro h
            exact absurd h.symm hxres
        · simp only [ne_eq, hseaf', not_false_eq_true, if_true, Option.some.injEq, Prod.mk.injEq]
          refine iff_of_false ?_ ?_
          · rintro ⟨_, _, ⟨-, rfl⟩, h⟩
            exact h.answered.1 rfl
          · rintro ⟨h, -⟩
            exact hseaf' (uint8ToHexString_inj (h.symm.trans hid))

/-- In every run from the start, the confirmations are right exactly when each meets the condition. -/
theorem run_confirms_iff (D : Derivations) (es : List Event) :
    Along (step D) Right .init es ↔ Along (step D) Fresh .init es := by
  have hinv : ∀ s e, Inv s → Inv (Ausf.step D s e) := fun s e hs => hs.step e
  constructor
  · exact Along.mono_of_invariant (fun s e hs _ => hinv s e hs) (fun s e hs h => (hs.right_iff_fresh e).mp h) .init
  · exact Along.mono_of_invariant (fun s e hs _ => hinv s e hs) (fun s e hs h => (hs.right_iff_fresh e).mpr h) .init

end

/-- Derivations that ignore what they are given. -/
def blankDerivations : Derivations := ⟨fun _ _ => zeros 16, fun _ _ => zeros 32⟩

/-- A vector with this AUTN. -/
def blankVector (autn : UInt8) : UdmVector :=
  ⟨"5G_AKA".toList, .replicate 16 autn, .replicate 16 0, .replicate 16 7, .replicate 32 0⟩

/-- Two vectors for one SUPI, then the right answer to the first. -/
def lateConfirmation : List Event :=
  [.ueAuthentications "snn".toList "imsi-1".toList (.vector (blankVector 1)),
    .ueAuthentications "snn".toList "imsi-1".toList (.vector (blankVector 2)),
    .confirmation (uint8ToHexString (blankVector 1).autn.toList) (uint8ToHexString (blankVector 1).xresStar.toList)
      (.replicate 16 0)]

/-- The late confirmation gets no code, and the pending vector loses its K_AUSF. -/
theorem lateConfirmation_not_right : ¬ Along (step blankDerivations) Right .init lateConfirmation := by
  rintro ⟨-, -, ⟨app, answer, heq, h⟩, -⟩
  have hcode : ((handleUeAuthenticationsConfirmation (uint8ToHexString (blankVector 1).autn.toList)
      (uint8ToHexString (blankVector 1).xresStar.toList) (.replicate 16 0)
      (run (step blankDerivations) .init (lateConfirmation.take 2)).app).map fun p => p.2.code) = some 0 := by
    decide
  have hcode' := congrArg (Option.map fun p => p.2.code) heq
  exact h.answered.1 (Option.some.inj (hcode'.symm.trans hcode))

end Oai5g.Ausf
