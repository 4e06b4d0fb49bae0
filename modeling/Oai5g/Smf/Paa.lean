import Mathlib

/-!
# UE addresses

* `Ipv4Pool`: `ipv4_pool`, a range of addresses with one bit each, in 32-bit words. The bits past the end
  of the range are set from the start.
* `PaaDynamic`: `paa_dynamic`, the pools by their ids and the pools of each DNN.
* `PaaState`: the pools with the addresses that are leased; `paaStep`.

Addresses are in host byte order.
-/

namespace Oai5g.Smf

/-- An IPv4 address in host byte order. -/
abbrev Addr := BitVec 32

/-- A DNN. -/
abbrev DnnLabel := List Char

/-! ## One pool -/

/-- `std::map<int, uint32_t>`: its entries and their number. -/
structure WordMap where
  word : ℤ → Option (BitVec 32)
  size : ℕ

namespace WordMap

/-- No entry. -/
def empty : WordMap := ⟨fun _ => none, 0⟩

variable (m : WordMap) (i : ℤ)

/-- Assignment to `alloc[i]`. -/
def set (w : BitVec 32) : WordMap :=
  { word := Function.update m.word i (some w)
    size := if (m.word i).isSome then m.size else m.size + 1 }

/-- Reading `alloc[i]` makes an entry where there is none. -/
def read : WordMap × BitVec 32 :=
  match m.word i with
  | some w => (m, w)
  | none => (m.set i 0, 0)

end WordMap

/-- The first bit that is not set. -/
def firstClearBit (w : BitVec 32) : ℕ := ((List.range 32).find? fun i => !w.getLsbD i).getD 32

/-- `ipv4_pool` -/
structure Ipv4Pool where
  start : Addr
  num : ℤ
  alloc : WordMap

namespace Ipv4Pool

/-- The pool of an id that is not there. -/
def empty : Ipv4Pool := ⟨0, 0, .empty⟩

/-- The words of the constructor: all clear, and one whose bits past the range are set. -/
def initWords (range : BitVec 32) : WordMap :=
  let range32 := range.toNat / 32
  let alloc := (List.range range32).foldl (fun alloc i => alloc.set i 0) WordMap.empty
  if range.toNat % 32 = 0 then alloc
  else alloc.set range32 (BitVec.allOnes 32 <<< (range.toNat % 32))

/-- `ipv4_pool::ipv4_pool` -/
def new (first : Addr) (range : BitVec 32) : Ipv4Pool :=
  { start := first, num := range.toInt, alloc := initWords range }

/-- The loop of `alloc_free_bit` from word `i`. -/
def allocFreeBitFrom (alloc : WordMap) (i : ℕ) : ℕ → Option (WordMap × ℕ)
  | 0 => none
  | remaining + 1 =>
    match alloc.read i with
    | (alloc, w) =>
      if w ≠ BitVec.allOnes 32 then
        some (alloc.set i (w ||| BitVec.twoPow 32 (firstClearBit w)), 32 * i + firstClearBit w)
      else allocFreeBitFrom alloc (i + 1) remaining

variable (p : Ipv4Pool)

/-- `ipv4_pool::alloc_address` -/
def allocAddress : Option (Ipv4Pool × Addr) :=
  (allocFreeBitFrom p.alloc 0 p.alloc.size).map fun (alloc, bitPos) =>
    ({ p with alloc := alloc }, p.start + BitVec.ofNat 32 bitPos)

/-- `ipv4_pool::free_bit`: the position is a signed number, and only compared with the end. -/
def freeBit (bitPos : ℤ) : Option Ipv4Pool :=
  if bitPos < p.num then
    match p.alloc.read (bitPos / 32) with
    | (alloc, w) =>
      some { p with
        alloc := alloc.set (bitPos / 32) (w &&& ~~~BitVec.twoPow 32 (bitPos % 32).toNat) }
  else none

/-- `ipv4_pool::in_pool`: the difference of two signed numbers, which wraps. -/
def inPool (a : Addr) : Bool := (a - p.start).toInt < p.num

/-- `ipv4_pool::free_address` -/
def freeAddress (a : Addr) : Option Ipv4Pool :=
  if p.inPool a then p.freeBit (a - p.start).toInt else none

end Ipv4Pool

/-- `ipv6_pool`: the prefix is handed out again and again. -/
structure Ipv6Pool where
  pref : BitVec 128
  prefLen : ℤ

/-! ## The pools of the DNNs -/

/-- `dnn_dynamic_pools` -/
structure DnnDynamicPools where
  ipv4PoolIds : List ℤ
  ipv6PoolIds : List ℤ

/-- `pdu_session_type_t` -/
inductive PduSessionType
  | ipv4 | ipv6 | ipv4v6 | unstructured | ethernet | reserved
  deriving DecidableEq

/-- `paa_dynamic` -/
structure PaaDynamic where
  ipv4Pools : ℤ → Option Ipv4Pool
  ipv6Pools : ℤ → Option Ipv6Pool
  dnns : DnnLabel → Option DnnDynamicPools

/-- A call of `add_pool`. -/
inductive AddPool
  | ipv4 (dnn : DnnLabel) (poolId : ℤ) (first : Addr) (range : BitVec 32)
  | ipv6 (dnn : DnnLabel) (poolId : ℤ) (pref : BitVec 128) (prefLen : ℤ)

/-- The result of `get_free_paa`: an address, a prefix or both. -/
structure Paa where
  ipv4Address : Option Addr
  ipv6Address : Option (BitVec 128)
  deriving DecidableEq

namespace PaaDynamic

/-- No entry. -/
def empty : PaaDynamic := ⟨fun _ => none, fun _ => none, fun _ => none⟩

variable (s : PaaDynamic)

/-- The pools of a DNN, none where it is not there yet. -/
def dnnPools (dnn : DnnLabel) : DnnDynamicPools := (s.dnns dnn).getD ⟨[], []⟩

/-- `paa_dynamic::add_pool`: a pool whose id is there already stays. -/
def addPool : AddPool → PaaDynamic
  | .ipv4 dnn poolId first range =>
    if 0 ≤ poolId then
      let pools := s.dnnPools dnn
      { s with
        ipv4Pools := if (s.ipv4Pools poolId).isSome then s.ipv4Pools
          else Function.update s.ipv4Pools poolId (some (.new first range))
        dnns := Function.update s.dnns dnn
          (some { pools with ipv4PoolIds := pools.ipv4PoolIds ++ [poolId] }) }
    else s
  | .ipv6 dnn poolId pref prefLen =>
    if 0 ≤ poolId then
      let pools := s.dnnPools dnn
      { s with
        ipv6Pools := if (s.ipv6Pools poolId).isSome then s.ipv6Pools
          else Function.update s.ipv6Pools poolId (some ⟨pref, prefLen⟩)
        dnns := Function.update s.dnns dnn
          (some { pools with ipv6PoolIds := pools.ipv6PoolIds ++ [poolId] }) }
    else s

/-- `ipv4_pools[id]` -/
def ipv4Pool (id : ℤ) : Ipv4Pool := (s.ipv4Pools id).getD .empty

/-- The pool of an id. -/
def setIpv4Pool (id : ℤ) (p : Ipv4Pool) : PaaDynamic :=
  { s with ipv4Pools := Function.update s.ipv4Pools id (some p) }

/-- The first pool of the list with a free address, and that address. -/
def allocIpv4 : List ℤ → Option (PaaDynamic × ℤ × Addr)
  | [] => none
  | id :: ids =>
    match (s.ipv4Pool id).allocAddress with
    | some (p, a) => some (s.setIpv4Pool id p, id, a)
    | none => allocIpv4 ids

/-- The first pool of the list that takes the address back. -/
def freeIpv4 (a : Addr) : List ℤ → Option PaaDynamic
  | [] => none
  | id :: ids =>
    match (s.ipv4Pool id).freeAddress a with
    | some p => some (s.setIpv4Pool id p)
    | none => freeIpv4 a ids

/-- The prefix of the first IPv6 pool. -/
def allocIpv6 (ids : List ℤ) : Option (BitVec 128) :=
  ids.head?.map fun id => ((s.ipv6Pools id).getD ⟨0, 0⟩).pref

/-- `paa_dynamic::get_free_paa` -/
def getFreePaa (dnn : DnnLabel) (type : PduSessionType) : PaaDynamic × Option Paa :=
  match s.dnns dnn with
  | none => (s, none)
  | some pools =>
    match type with
    | .ipv4 =>
      match s.allocIpv4 pools.ipv4PoolIds with
      | some (s, _, a) => (s, some ⟨some a, none⟩)
      | none => (s, none)
    | .ipv4v6 =>
      match s.allocIpv4 pools.ipv4PoolIds with
      | none => (s, none)
      | some (s, id, a) =>
        match s.allocIpv6 pools.ipv6PoolIds with
        | some pref => (s, some ⟨some a, some pref⟩)
        | none =>
          (match (s.ipv4Pool id).freeAddress a with
            | some p => s.setIpv4Pool id p
            | none => s, none)
    | .ipv6 =>
      match s.allocIpv6 pools.ipv6PoolIds with
      | some pref => (s, some ⟨none, some pref⟩)
      | none => (s, none)
    | _ => (s, none)

/-- The two `paa_dynamic::release_paa`, with the type of a `paa_t` or without. -/
def releasePaa (dnn : DnnLabel) (type : Option PduSessionType) (a : Addr) : PaaDynamic :=
  match s.dnns dnn with
  | none => s
  | some pools =>
    match type with
    | none | some .ipv4 | some .ipv4v6 => (s.freeIpv4 a pools.ipv4PoolIds).getD s
    | _ => s

end PaaDynamic

end Oai5g.Smf
