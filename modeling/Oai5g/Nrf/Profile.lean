import Mathlib

/-!
# NF profiles

* `NfType`: the NF types and their names (`stringToNfType`, `nfTypeToString`); a known name comes back
  (`nfTypeToString_stringToNfType`).
* `ProfileInfo`: the attributes of a profile that a PATCH reads and writes; `setNfStatus`.
* `replaceProfileInfo`, `addProfileInfo`, `removeProfileInfo`: one PATCH operation. They share the
  single-valued members (`Member`, `setMember`, `clearMember`); `none` is the operation refused.
-/

namespace Oai5g.Nrf

/-! ## NF types -/

/-- `nf_type_t` -/
inductive NfType
  | nrf | udm | amf | smf | ausf | nef | pcf | smsf | nssf | udr | lmf | gmlc | eir5g | sepp | upf
  | n3iwf | af | udsf | bsf | chf | nwdaf | unknown
  deriving DecidableEq, Repr

/-- The names `string_to_nf_type` compares with, in its order. -/
def nfTypeNames : List (String × NfType) :=
  [("NRF", .nrf), ("UDM", .udm), ("AMF", .amf), ("SMF", .smf), ("AUSF", .ausf), ("NEF", .nef),
    ("PCF", .pcf), ("SMSF", .smsf), ("NSSF", .nssf), ("UDR", .udr), ("LMF", .lmf), ("GMLC", .gmlc),
    ("5G_EIR", .eir5g), ("SEPP", .sepp), ("UPF", .upf), ("N3IWF", .n3iwf), ("AF", .af),
    ("UDSF", .udsf), ("BSF", .bsf), ("CHF", .chf), ("NWDAF", .nwdaf)]

/-- The type of a name (`string_to_nf_type`). -/
def stringToNfType (str : String) : NfType :=
  match nfTypeNames.find? fun p => p.1 = str with
  | some p => p.2
  | none => .unknown

/-- The name of a type (`nf_type_to_string`). -/
def nfTypeToString : NfType → String
  | .nrf => "NRF"
  | .amf => "AMF"
  | .ausf => "AUSF"
  | .nef => "NEF"
  | .nwdaf => "NWDAF"
  | .pcf => "PCF"
  | .nssf => "NSSF"
  | .smf => "SMF"
  | .udm => "UDM"
  | .udr => "UDR"
  | .udsf => "UDSF"
  | .upf => "UPF"
  | .lmf => "LMF"
  | .smsf => "SMSF"
  | .gmlc => "GMLC"
  | .eir5g => "5G_EIR"
  | .sepp => "SEPP"
  | .n3iwf => "N3IWF"
  | .af => "AF"
  | .bsf => "BSF"
  | .chf => "CHF"
  | .unknown => "NF TYPE UNKNOWN"

theorem nfTypeToString_of_mem : ∀ p ∈ nfTypeNames, nfTypeToString p.2 = p.1 := by decide

theorem nfTypeToString_stringToNfType {str : String} (h : stringToNfType str ≠ .unknown) :
    nfTypeToString (stringToNfType str) = str := by
  unfold stringToNfType at h ⊢
  cases hp : nfTypeNames.find? fun p => p.1 = str with
  | none =>
    rw [hp] at h
    exact absurd rfl h
  | some p =>
    have hname : p.1 = str := by simpa using List.find?_some hp
    rw [← hname]
    exact nfTypeToString_of_mem p (List.mem_of_find?_eq_some hp)

theorem stringToNfType_nfTypeToString (t : NfType) : stringToNfType (nfTypeToString t) = t := by
  cases t <;> decide

/-! ## Text -/

/-- `boost::iequals`. -/
def iequals (a b : String) : Bool := a.toList.map Char.toLower = b.toList.map Char.toLower

/-- `isspace` in the C locale. -/
def isSpace (c : Char) : Bool := c = ' ' || (9 ≤ c.toNat && c.toNat ≤ 13)

/-- `util::trim`. -/
def trim (s : String) : String :=
  String.ofList ((s.toList.dropWhile isSpace).reverse.dropWhile isSpace).reverse

/-- The value of a list of decimal digits. -/
def digitsValue (digits : List Char) : ℤ := digits.foldl (fun n c => 10 * n + (c.toNat - 48 : ℤ)) 0

/-- `std::stoi`: `none` where it throws. -/
def stoi (s : String) : Option ℤ :=
  let text := s.toList.dropWhile isSpace
  let digits := ((if text.head? = some '-' ∨ text.head? = some '+' then text.tail else text).takeWhile
    Char.isDigit)
  let value := if text.head? = some '-' then -digitsValue digits else digitsValue digits
  if digits = [] then none else if -2 ^ 31 ≤ value ∧ value < 2 ^ 31 then some value else none

/-- Two separators in a row count as one. -/
def compressSlashes : List Char → List Char
  | [] => []
  | c :: cs => if c = '/' ∧ cs.head? = some '/' then compressSlashes cs else c :: compressSlashes cs

/-- `boost::split` at `/` with `token_compress_on`. -/
def splitPath (path : String) : List (List Char) := (compressSlashes path.toList).splitOn '/'

/-- The address conversions of the C library. -/
structure Inet where
  /-- `inet_pton(AF_INET, ..)` -/
  pton4 : String → Option UInt32
  /-- `inet_pton(AF_INET6, ..)` -/
  pton6 : String → Option (BitVec 128)

/-! ## The attributes of a profile -/

/-- The attributes of a profile that a PATCH can name. -/
@[ext] structure ProfileInfo where
  nfInstanceName : String
  nfStatus : String
  nfType : NfType
  heartBeatTimer : ℤ
  priority : UInt16
  capacity : UInt16
  fqdn : String
  ipv4Addresses : List UInt32
  ipv6Addresses : List (BitVec 128)
  deriving DecidableEq

/-- The values `set_nf_status` takes. -/
def ValidStatus (status : String) : Prop :=
  iequals status "REGISTERED" = true ∨ iequals status "UNDISCOVERABLE" = true ∨
    iequals status "SUSPENDED" = true

instance : DecidablePred ValidStatus := fun _ => by unfold ValidStatus; infer_instance

namespace ProfileInfo

variable (inet : Inet) (info : ProfileInfo)

/-- The profile with another status. -/
def withStatus (status : String) : ProfileInfo := { info with nfStatus := status }

/-- `set_nf_status` with whether the value was taken. -/
def setNfStatus (status : String) : ProfileInfo × Bool :=
  if ValidStatus status then (info.withStatus status, true) else (info, false)

/-- `is_nf_active` -/
def isNfActive : Bool := iequals info.nfStatus "REGISTERED"

/-- Whether the profile is suspended. -/
def isSuspended : Bool := iequals info.nfStatus "SUSPENDED"

end ProfileInfo

/-! ## PATCH operations -/

/-- The members with a single value. -/
inductive Member
  | nfInstanceName | nfStatus | nfType | heartBeatTimer | priority | capacity | fqdn
  deriving DecidableEq, Repr

/-- The member a path names. -/
def memberOf (path : String) : Option Member :=
  if path = "nfInstanceName" then some .nfInstanceName
  else if path = "nfStatus" then some .nfStatus
  else if path = "nfType" then some .nfType
  else if path = "heartBeatTimer" then some .heartBeatTimer
  else if path = "priority" then some .priority
  else if path = "capacity" then some .capacity
  else if path = "fqdn" then some .fqdn
  else none

namespace ProfileInfo

variable (inet : Inet) (info : ProfileInfo)

/-- Store a new value of a member, as both replace and add do. -/
def setMember (value : String) : Member → Option ProfileInfo
  | .nfInstanceName => some { info with nfInstanceName := value }
  | .nfStatus => some (info.withStatus value)
  | .nfType => some { info with nfType := stringToNfType value }
  | .heartBeatTimer => (stoi value).map fun v => { info with heartBeatTimer := v }
  | .priority => (stoi value).map fun v => { info with priority := UInt16.ofNat (v % 2 ^ 16).toNat }
  | .capacity => (stoi value).map fun v => { info with capacity := UInt16.ofNat (v % 2 ^ 16).toNat }
  | .fqdn => some { info with fqdn := value }

/-- What remove stores in a member. -/
def clearMember : Member → ProfileInfo
  | .nfInstanceName => { info with nfInstanceName := "" }
  | .nfStatus => info.withStatus ""
  | .nfType => { info with nfType := .unknown }
  | .heartBeatTimer => { info with heartBeatTimer := 0 }
  | .priority => { info with priority := 0 }
  -- the source writes the priority here as well
  | .capacity => { info with priority := 0 }
  | .fqdn => { info with fqdn := "" }

/-- `replace_profile_info`; the lists are not supported. -/
def replaceProfileInfo (path value : String) : Option ProfileInfo :=
  (memberOf path).bind (info.setMember value)

/-- `add_profile_info` -/
def addProfileInfo (path value : String) : Option ProfileInfo :=
  match memberOf path with
  | some m => info.setMember value m
  | none =>
    if path = "ipv4Addresses" then
      (inet.pton4 (trim value)).map fun a => { info with ipv4Addresses := info.ipv4Addresses ++ [a] }
    else if path = "ipv6Addresses" then
      (inet.pton6 (trim value)).map fun a => { info with ipv6Addresses := info.ipv6Addresses ++ [a] }
    else none

/-- Remove the IPv4 address a path `../index` names. -/
def eraseIpv4 (path : String) : Option ProfileInfo :=
  match splitPath path with
  | [_, text] => (stoi (String.ofList text)).bind fun v =>
      if (v % 2 ^ 32).toNat < info.ipv4Addresses.length then
        some { info with ipv4Addresses := info.ipv4Addresses.eraseIdx (v % 2 ^ 32).toNat }
      else none
  | _ => none

/-- `path.find("ipv4Addresses") != npos` -/
def mentionsIpv4 (path : String) : Bool := "ipv4Addresses".toList <:+: path.toList

/-- `remove_profile_info` -/
def removeProfileInfo (path : String) : Option ProfileInfo :=
  match memberOf path with
  | some m => some (info.clearMember m)
  | none =>
    if mentionsIpv4 path then info.eraseIpv4 path else none

end ProfileInfo

end Oai5g.Nrf
