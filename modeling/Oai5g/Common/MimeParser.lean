import Oai5g.Lib.Find
import Oai5g.Common.Conversions

/-!
# Multipart messages between AMF and SMF

The two classes `mime_parser`. On N11 one of them writes what the other one reads.

* `amfParse`, `smfParse`: one loop, in which the AMF also reads the id of a part and keeps one part for each id.
* `amfCreateMultipartRelatedContent` and its three siblings: what is appended to the body of a message.
* **`parse_returns`**: both parsers come back from every text.
* **`smfParse_amf`**, **`amfParse_smf`**: each reads what the other one has written, when the parts are `Clean`.
-/

namespace Oai5g.Mime

/-- What a `std::string` holds. -/
abbrev Octets : Type := List UInt8

/-- A text as octets. -/
def octets (text : String) : Octets := text.toList.map fun c => UInt8.ofNat c.toNat

/-! ## `std::string` -/

/-- `std::string::npos` -/
def npos : ℕ := 2 ^ 64 - 1

/-- `std::string::find` for a pattern that is not empty. -/
def find (str pattern : Octets) (pos : ℕ) : ℕ := ((first pattern (str.drop pos)).map (pos + ·)).getD npos

/-- `a + b` of type `size_t` -/
def addSize (a b : ℕ) : ℕ := (a + b) % 2 ^ 64

/-- `a - b` of type `size_t` -/
def subSize (a b : ℕ) : ℕ := (a + (2 ^ 64 - b)) % 2 ^ 64

/-- `std::string::substr`; `none` for `std::out_of_range`. -/
def substr (str : Octets) (pos len : ℕ) : Option Octets :=
  if str.length < pos then none else some ((str.drop pos).take len)

/-- `boost::iequals` -/
def iequals (a b : Octets) : Bool :=
  let lower (c : UInt8) : UInt8 := if 65 ≤ c ∧ c ≤ 90 then c + 32 else c
  a.map lower == b.map lower

/-! ## The parsers -/

/-- The end of a line. -/
def CRLF : Octets := [13, 10]

/-- The Content-Id of the JSON part. -/
def JSON_CONTENT_ID_MIME : Octets := octets "root"

/-- The Content-Id of the N1 part. -/
def N1_SM_CONTENT_ID : Octets := octets "n1SmMsg"

/-- The Content-Id of the N2 part. -/
def N2_SM_CONTENT_ID : Octets := octets "n2msg"

/-- What is read between the content type and the body of a part. -/
inductive PartHead
  | returnFalse
  | outOfRange
  | found (contentId : Octets) (crlfPos : ℕ)

/-- How `parse` ends. -/
inductive ParseResult (π : Type)
  | returns (result : Bool) (parts : π)
  | outOfRange

section

variable {π : Type} (head : Octets → ℕ → Octets → PartHead) (addPart : π → Octets → Octets → Octets → π)

/-- The loop of `mime_parser::parse`; `none` when it is still running. -/
def parseParts (str boundaryFull lastBoundary : Octets) (boundaryLastPost : ℕ) :
    ℕ → ℕ → π → Option (ParseResult π)
  | 0, _, _ => none
  | fuel + 1, boundaryPos, parts =>
    if boundaryPos < boundaryLastPost then
      let contentTypePos := find str (octets "Content-Type") boundaryPos
      let crlfPos := find str CRLF contentTypePos
      if contentTypePos = npos ∨ crlfPos = npos then some (.returns true parts)
      else match substr str (addSize contentTypePos 14) (subSize crlfPos (addSize contentTypePos 14)) with
        | none => some .outOfRange
        | some contentType =>
          match head str contentTypePos contentType with
          | .returnFalse => some (.returns false parts)
          | .outOfRange => some .outOfRange
          | .found contentId crlfPos =>
            let next := find str boundaryFull crlfPos
            let boundaryPos := if next = npos then find str lastBoundary crlfPos else next
            if 0 < boundaryPos then
              match substr str (addSize crlfPos 4) (subSize (subSize boundaryPos 2) (addSize crlfPos 4)) with
              | none => some .outOfRange
              | some body => parseParts str boundaryFull lastBoundary boundaryLastPost fuel boundaryPos
                  (addPart parts contentType contentId body)
            else parseParts str boundaryFull lastBoundary boundaryLastPost fuel boundaryPos parts
    else some (.returns true parts)

/-- `mime_parser::parse`; `noParts` is the result for a text without a part. -/
def parse (noParts : Bool) (str : Octets) (parts : π) : Option (ParseResult π) :=
  let contentTypePos := find str (octets "Content-Type") 0
  if contentTypePos ≤ 4 ∨ contentTypePos = npos then some (.returns noParts parts)
  else match substr str 2 (subSize contentTypePos 4) with
    | none => some .outOfRange
    | some boundaryStr =>
      let boundaryFull := octets "--" ++ boundaryStr ++ CRLF
      let lastBoundary := octets "--" ++ boundaryStr ++ octets "--" ++ CRLF
      parseParts head addPart str boundaryFull lastBoundary (find str lastBoundary 0) (str.length + 1)
        (find str boundaryFull 0) parts

end

/-- `mime_part` of the SMF -/
structure SmfPart where
  contentType : Octets
  body : Octets
  deriving DecidableEq, Repr

/-- `mime_part` of the AMF -/
structure AmfPart where
  contentType : Octets
  contentId : Octets
  body : Octets
  deriving DecidableEq, Repr

/-- The SMF reads no content id. -/
def smfHead (str : Octets) (contentTypePos : ℕ) (_ : Octets) : PartHead :=
  .found [] (find str (CRLF ++ CRLF) contentTypePos)

/-- The AMF reads the id of a part that is not JSON. -/
def amfHead (str : Octets) (contentTypePos : ℕ) (contentType : Octets) : PartHead :=
  if iequals contentType (octets "application/json") ∨ iequals contentType (octets "application/problem+json") then
    .found JSON_CONTENT_ID_MIME (find str (CRLF ++ CRLF) contentTypePos)
  else
    let contentIdPos := find str (octets "Content-Id") contentTypePos
    if contentIdPos = npos then .returnFalse
    else
      let crlfPos := find str CRLF contentIdPos
      if crlfPos = npos then .returnFalse
      else match substr str (addSize contentIdPos 12) (subSize (subSize crlfPos contentIdPos) 12) with
        | none => .outOfRange
        | some contentId => .found contentId (find str (CRLF ++ CRLF) contentIdPos)

/-- `mime_parts.push_back(p)` -/
def smfAddPart (parts : List SmfPart) (contentType _contentId body : Octets) : List SmfPart :=
  parts ++ [⟨contentType, body⟩]

/-- `mime_parts[p.content_id] = p` -/
def amfAddPart (parts : List AmfPart) (contentType contentId body : Octets) : List AmfPart :=
  parts.filter (fun p => p.contentId ≠ contentId) ++ [⟨contentType, contentId, body⟩]

/-- `mime_parser::parse` of the SMF -/
def smfParse (str : Octets) : Option (ParseResult (List SmfPart)) := parse smfHead smfAddPart true str []

/-- `mime_parser::parse` of the AMF -/
def amfParse (str : Octets) : Option (ParseResult (List AmfPart)) := parse amfHead amfAddPart false str []

/-! ## The writers -/

/-- `isspace` -/
def isSpace (c : Char) : Bool := c.toNat = 32 || (9 ≤ c.toNat && c.toNat ≤ 13)

/-- The loop of `conv::ascii_to_hex` on a C string, with the digit of an octet that is half read. -/
def asciiToHexLoop : Option ℕ → Str → Octets
  | _, [] => []
  | high, c :: hex =>
    if isSpace c then asciiToHexLoop high hex
    else match hexValue c, high with
      | none, _ => []
      | some v, none => asciiToHexLoop (some v) hex
      | some v, some high => UInt8.ofNat (high <<< 4 ||| v) :: asciiToHexLoop none hex

/-- `conv::ascii_to_hex`: the octets it writes. -/
def asciiToHex (h : Str) : Octets := asciiToHexLoop none (cStr h)

/-- `std::string((char*) format_string_as_hex(str), str.length() / 2)`; `block` is what `malloc` gives. -/
def formatStringAsHex (block : ℕ → UInt8) (str : Str) : Octets :=
  (List.range (str.length / 2)).map fun i => (asciiToHex str)[i]?.getD (block i)

/-- `multipart_related_content_part_e` -/
inductive MultipartRelatedContentPart
  | json | nas | ngap
  deriving DecidableEq, Repr

/-- The first part of a message, and the boundary of the next one. -/
def jsonContent (jsonPart boundary jsonFormat : Octets) : Octets :=
  octets "--" ++ boundary ++ CRLF ++ octets "Content-Type: " ++ jsonFormat ++ CRLF ++ CRLF ++ jsonPart ++ CRLF ++
    octets "--" ++ boundary ++ CRLF

/-- The header lines of the N1 part. -/
def n1Header : Octets :=
  octets "Content-Type: application/vnd.3gpp.5gnas" ++ CRLF ++ octets "Content-Id: " ++ N1_SM_CONTENT_ID ++ CRLF

/-- The header lines of the N2 part. -/
def n2Header : Octets :=
  octets "Content-Type: application/vnd.3gpp.ngap" ++ CRLF ++ octets "Content-Id: " ++ N2_SM_CONTENT_ID ++ CRLF

/-- `mime_parser::create_multipart_related_content` of the SMF with two messages -/
def smfCreateMultipartRelatedContent (n1Block n2Block : ℕ → UInt8) (jsonPart boundary : Octets)
    (n1Message n2Message : Str) (jsonFormat : Octets) : Octets :=
  jsonContent jsonPart boundary jsonFormat ++
    n1Header ++ CRLF ++ formatStringAsHex n1Block n1Message ++ CRLF ++ octets "--" ++ boundary ++ CRLF ++
    n2Header ++ CRLF ++ formatStringAsHex n2Block n2Message ++ CRLF ++ octets "--" ++ boundary ++ octets "--" ++ CRLF

/-- `mime_parser::create_multipart_related_content` of the SMF with one message -/
def smfCreateMultipartRelatedContentOf (block : ℕ → UInt8) (jsonPart boundary : Octets) (message : Str)
    (contentType : MultipartRelatedContentPart) (jsonFormat : Octets) : Octets :=
  let header := match contentType with
    | .nas => n1Header
    | .ngap => n2Header
    | .json => []
  jsonContent jsonPart boundary jsonFormat ++
    header ++ CRLF ++ formatStringAsHex block message ++ CRLF ++ octets "--" ++ boundary ++ octets "--" ++ CRLF

/-- `mime_parser::create_multipart_related_content` of the AMF with two messages -/
def amfCreateMultipartRelatedContent (n1Block n2Block : ℕ → UInt8) (jsonPart boundary : Octets)
    (n1Message n2Message : Str) : Octets :=
  smfCreateMultipartRelatedContent n1Block n2Block jsonPart boundary n1Message n2Message (octets "application/json")

/-- `mime_parser::create_multipart_related_content` of the AMF with one message -/
def amfCreateMultipartRelatedContentOf (block : ℕ → UInt8) (jsonPart boundary : Octets) (message : Str)
    (contentType : MultipartRelatedContentPart) : Octets :=
  smfCreateMultipartRelatedContentOf block jsonPart boundary message contentType (octets "application/json")

/-- The boundary of a message. -/
def CURL_MIME_BOUNDARY : Octets := octets "----Boundary"

/-! ## Every text is parsed -/

variable {str p q w t : Octets} {pos : ℕ} {c : UInt8}

theorem find_spec (str : Octets) (pos : ℕ) (hp : p ≠ []) : find str p pos = npos ∨
    pos ≤ find str p pos ∧ find str p pos + p.length ≤ str.length ∧ ∃ t, str.drop (find str p pos) = p ++ t := by
  unfold find
  cases h : first p (str.drop pos) with
  | none => exact .inl rfl
  | some k =>
    have hle := first_le_length h hp
    have hpos := List.length_pos_iff.mpr hp
    obtain ⟨t, ht⟩ := (first_eq_some_iff.mp h).1
    rw [List.length_drop] at hle
    rw [List.drop_drop] at ht
    exact .inr ⟨by simp, by simp; omega, t, ht.symm⟩

/-- What starts with an octet that a word does not have is found behind the word. -/
theorem find_behind (hw : str.drop pos = w ++ t) (hc : c ∉ w) (h : find str (c :: q) pos ≠ npos) :
    pos + w.length ≤ find str (c :: q) pos := by
  unfold find at h ⊢
  rw [hw, first_append_of_head_notMem hc, Option.map_map] at h ⊢
  cases hfirst : first (c :: q) t with
  | none => simp [hfirst] at h
  | some k =>
    simp only [Option.map_some, Function.comp_apply, Option.getD_some]
    omega

theorem substr_isSome (len : ℕ) (h : pos ≤ str.length) : ∃ text, substr str pos len = some text :=
  ⟨_, if_neg (not_lt.mpr h)⟩

/-- The header of a part was read without an exception, and the blank line, if any, is behind the content type. -/
def PartHead.Read (str : Octets) (contentTypePos : ℕ) : PartHead → Prop
  | .returnFalse => True
  | .outOfRange => False
  | .found _ crlfPos => crlfPos = npos ∨ contentTypePos < crlfPos ∧ crlfPos + 4 ≤ str.length

/-- What a parser needs of the way it reads headers. -/
def ReadsHeads (head : Octets → ℕ → Octets → PartHead) : Prop :=
  ∀ str contentTypePos contentType t, str.length < npos → str.drop contentTypePos = octets "Content-Type" ++ t →
    (head str contentTypePos contentType).Read str contentTypePos

theorem blankLine_spec (hw : str.drop pos = w ++ t) (hc : 13 ∉ w) (hpos : w ≠ []) :
    find str (CRLF ++ CRLF) pos = npos ∨
      pos < find str (CRLF ++ CRLF) pos ∧ find str (CRLF ++ CRLF) pos + 4 ≤ str.length := by
  by_cases h : find str (CRLF ++ CRLF) pos = npos
  · exact .inl h
  · have hbehind := find_behind (q := [10, 13, 10]) hw hc h
    have hlength := List.length_pos_iff.mpr hpos
    have hin := ((find_spec str pos (by decide)).resolve_left h).2.1
    exact .inr ⟨lt_of_lt_of_le (by omega) hbehind, hin⟩

theorem find_behind_head {ctPos crlfPos : ℕ} (h : crlfPos = npos ∨ ctPos < crlfPos ∧ crlfPos + 4 ≤ str.length)
    (hlen : str.length < npos) (hp : p ≠ []) : find str p crlfPos = npos ∨ ctPos < find str p crlfPos := by
  rcases find_spec str crlfPos hp with hnone | ⟨hle, hin, -⟩
  · exact .inl hnone
  · rcases h with rfl | ⟨hlt, -⟩
    · omega
    · exact .inr (lt_of_lt_of_le hlt hle)

theorem readsHeads_smf : ReadsHeads smfHead := fun _ _ _ _ _ ht => blankLine_spec ht (by decide) (by decide)

theorem addSize_of_lt {a b : ℕ} (h : a + b ≤ npos) : addSize a b = a + b :=
  Nat.mod_eq_of_lt (by unfold npos at h; omega)

theorem subSize_of_le {a b : ℕ} (h : b ≤ a) (ha : a ≤ npos) : subSize a b = a - b := by
  unfold subSize
  unfold npos at ha
  rw [show a + (2 ^ 64 - b) = a - b + 2 ^ 64 by omega, Nat.add_mod_right, Nat.mod_eq_of_lt (by omega)]

theorem readsHeads_amf : ReadsHeads amfHead := by
  intro str contentTypePos contentType t hlen ht
  unfold amfHead
  dsimp only
  split_ifs with hjson hid hcrlf
  · exact blankLine_spec ht (by decide) (by decide)
  · trivial
  · trivial
  · -- the line of the id ends behind its name
    obtain ⟨hle, hin, u, hu⟩ := (find_spec str contentTypePos (by decide)).resolve_left hid
    have hbehind := find_behind hu (q := [10]) (by decide) hcrlf
    have hend := ((find_spec (p := CRLF) str _ (by decide)).resolve_left hcrlf).2.1
    have hpos : addSize (find str (octets "Content-Id") contentTypePos) 12 ≤ str.length := by
      have hword : (octets "Content-Id").length = 10 := rfl
      have hbreak : CRLF.length = 2 := rfl
      rw [addSize_of_lt] <;> unfold CRLF at * <;> omega
    obtain ⟨contentId, hsub⟩ := substr_isSome (subSize (subSize (find str CRLF
      (find str (octets "Content-Id") contentTypePos)) (find str (octets "Content-Id") contentTypePos)) 12) hpos
    rw [hsub]
    rcases blankLine_spec hu (by decide) (by decide) with hnone | ⟨hlt, hblank⟩
    · exact .inl hnone
    · exact .inr ⟨lt_of_le_of_lt hle hlt, hblank⟩

section

variable {π : Type} {head : Octets → ℕ → Octets → PartHead} {addPart : π → Octets → Octets → Octets → π}

/-- Each turn of the loop takes the boundary further into the text or to its end. -/
theorem parseParts_returns (hhead : ReadsHeads head) {full last : Octets} {lastPost : ℕ} (hlast : lastPost ≤ npos)
    (hfull : full ≠ []) (hne : last ≠ []) (hlen : str.length < npos) {fuel : ℕ} {pos : ℕ} {parts : π} (hpos : 0 < fuel)
    (hfuel : pos = npos ∨ str.length < fuel + pos) :
    ∃ result parts', parseParts head addPart str full last lastPost fuel pos parts = some (.returns result parts') := by
  induction fuel generalizing pos parts with
  | zero => exact absurd hpos (Nat.lt_irrefl 0)
  | succ fuel ih =>
    unfold parseParts
    dsimp only
    split_ifs with hlt hnone
    · exact ⟨_, _, rfl⟩
    · push Not at hnone
      obtain ⟨hct, hcrlf⟩ := hnone
      generalize hctPos : find str (octets "Content-Type") pos = ctPos at hct hcrlf ⊢
      obtain ⟨hle, hin, t, ht⟩ := (find_spec (p := octets "Content-Type") str pos (by decide)).resolve_left
        (hctPos ▸ hct)
      rw [hctPos] at hle hin ht
      have hword : (octets "Content-Type").length = 12 := rfl
      have hbehind := find_behind ht (q := [10]) (by decide) hcrlf
      have hend := ((find_spec (p := CRLF) str _ (by decide)).resolve_left hcrlf).2.1
      have hbreak : CRLF.length = 2 := rfl
      have hct14 : addSize ctPos 14 ≤ str.length := by
        rw [addSize_of_lt] <;> unfold CRLF at * <;> omega
      obtain ⟨contentType, hsub⟩ := substr_isSome (subSize (find str CRLF ctPos) (addSize ctPos 14)) hct14
      have hread := hhead str ctPos contentType t hlen ht
      rw [hsub]
      dsimp only
      cases hhd : head str ctPos contentType with
      | returnFalse => exact ⟨_, _, rfl⟩
      | outOfRange =>
        rw [hhd] at hread
        exact hread.elim
      | found contentId crlfPos =>
        rw [hhd] at hread
        dsimp only
        generalize hb : (if find str full crlfPos = npos then find str last crlfPos else find str full crlfPos) = b
        have hbound : b = npos ∨ pos < b := by
          rw [← hb]
          split_ifs with h
          · exact (find_behind_head hread hlen hne).imp id (lt_of_le_of_lt hle)
          · exact .inr (lt_of_le_of_lt hle ((find_behind_head hread hlen hfull).resolve_left h))
        have hnext : b = npos ∨ str.length < fuel + b := hbound.imp id fun h => by omega
        have hbody : addSize crlfPos 4 ≤ str.length := by
          rcases hread with rfl | ⟨-, hcrlf4⟩
          · exact (show addSize npos 4 ≤ 12 by decide).trans (by omega)
          · rw [addSize_of_lt] <;> omega
        split_ifs with hzero
        · obtain ⟨body, hbodySub⟩ := substr_isSome (subSize (subSize b 2) (addSize crlfPos 4)) hbody
          rw [hbodySub]
          exact ih (by omega) hnext
        · exact ih (by omega) hnext
    · exact ⟨_, _, rfl⟩

/-- **A parser comes back from every text, and no piece of the text is out of range.** -/
theorem parse_returns_of_readsHeads (hhead : ReadsHeads head) {noParts : Bool} (hlen : str.length < npos) (parts : π) :
    ∃ result parts', parse head addPart noParts str parts = some (.returns result parts') := by
  unfold parse
  dsimp only
  split_ifs with hnone
  · exact ⟨_, _, rfl⟩
  · push Not at hnone
    have hin := ((find_spec (p := octets "Content-Type") str 0 (by decide)).resolve_left hnone.2).2.1
    have hword : (octets "Content-Type").length = 12 := rfl
    obtain ⟨boundaryStr, hsub⟩ := substr_isSome (subSize (find str (octets "Content-Type") 0) 4)
      (show 2 ≤ str.length by omega)
    rw [hsub]
    have hdashes : octets "--" = [45, 45] := rfl
    have hfirst : find str (octets "--" ++ boundaryStr ++ CRLF) 0 = npos ∨
        str.length < str.length + 1 + find str (octets "--" ++ boundaryStr ++ CRLF) 0 := .inr (by omega)
    have hlast : find str (octets "--" ++ boundaryStr ++ octets "--" ++ CRLF) 0 ≤ npos := by
      rcases find_spec (p := octets "--" ++ boundaryStr ++ octets "--" ++ CRLF) str 0
        (by simp [hdashes]) with h | h <;> omega
    exact parseParts_returns hhead hlast (by simp [hdashes]) (by simp [hdashes]) hlen (Nat.succ_pos _) hfirst

end

/-- **Both parsers come back from every text.** -/
theorem parse_returns (hlen : str.length < npos) :
    (∃ result parts, smfParse str = some (.returns result parts)) ∧
      ∃ result parts, amfParse str = some (.returns result parts) :=
  ⟨parse_returns_of_readsHeads readsHeads_smf hlen [], parse_returns_of_readsHeads readsHeads_amf hlen []⟩

/-- A text that ends within its first header. -/
theorem parse_returns_cut :
    (∃ result parts, smfParse (octets "--B\r\nContent-Type: text") = some (.returns result parts)) ∧
      ∃ result parts, amfParse (octets "--B\r\nContent-Type: text") = some (.returns result parts) :=
  parse_returns (by decide)

/-! ## The octets of N1 and N2 messages -/

theorem isSpace_of_hexValue {c : Char} {n : ℕ} (h : hexValue c = some n) : isSpace c = false := by
  have hle : 48 ≤ c.toNat := by
    unfold hexValue at h
    split_ifs at h with hdigit hupper hlower
    · exact UInt32.le_iff_toNat_le.mp hdigit.1
    · exact (by decide : 48 ≤ 65).trans (UInt32.le_iff_toNat_le.mp hupper.1)
    · exact (by decide : 48 ≤ 97).trans (UInt32.le_iff_toNat_le.mp hlower.1)
  unfold isSpace
  rw [Bool.or_eq_false_iff, Bool.and_eq_false_iff, decide_eq_false_iff_not, decide_eq_false_iff_not,
    decide_eq_false_iff_not]
  exact ⟨by omega, .inr (by omega)⟩

theorem asciiToHexLoop_of_isHexOf {str : Str} {v : List UInt8} (h : IsHexOf str v) : asciiToHexLoop none str = v := by
  induction v generalizing str with
  | nil =>
    obtain rfl : str = [] := List.length_eq_zero_iff.mp h.length_eq
    rfl
  | cons b v ih =>
    rcases str with _ | ⟨c, _ | ⟨d, str⟩⟩
    · cases h
    · exact absurd h.length_eq (by simp; omega)
    · simp only [IsHexOf, halves, List.flatMap_cons, List.map_cons, List.cons_append, List.nil_append,
        List.cons.injEq] at h
      obtain ⟨hc, hd, hrest⟩ := h
      simp only [asciiToHexLoop, isSpace_of_hexValue hc, isSpace_of_hexValue hd, hc, hd, Bool.false_eq_true, if_false,
        ih hrest]
      have hoctet : (b.toNat / 16) <<< 4 ||| b.toNat % 16 = b.toNat := by
        rw [← Nat.shiftLeft_add_eq_or_of_lt (Nat.mod_lt _ (by decide)), Nat.shiftLeft_eq]
        omega
      rw [hoctet, UInt8.ofNat_toNat]

theorem formatStringAsHex_of_isHexOf {str : Str} {v : List UInt8} (h : IsHexOf str v) (block : ℕ → UInt8) :
    formatStringAsHex block str = v := by
  have hlength : str.length / 2 = v.length := by
    have := h.length_eq
    omega
  unfold formatStringAsHex asciiToHex
  rw [cStr_of_isHexOf h, asciiToHexLoop_of_isHexOf h, hlength]
  refine List.ext_getElem (by simp) fun i hi hi' => ?_
  simp [hi']

/-! ## What one writes the other reads -/

/-- The kinds of parts that are written. -/
inductive PartKind
  | json | problem | n1 | n2
  deriving DecidableEq, Repr

namespace PartKind

/-- The Content-Type of a part. -/
def contentType : PartKind → Octets
  | json => octets "application/json"
  | problem => octets "application/problem+json"
  | n1 => octets "application/vnd.3gpp.5gnas"
  | n2 => octets "application/vnd.3gpp.ngap"

/-- The Content-Id of a part. -/
def contentId : PartKind → Octets
  | json | problem => JSON_CONTENT_ID_MIME
  | n1 => N1_SM_CONTENT_ID
  | n2 => N2_SM_CONTENT_ID

/-- The lines of the header, without the last line break. -/
def header : PartKind → Octets
  | json => octets "Content-Type: " ++ octets "application/json"
  | problem => octets "Content-Type: " ++ octets "application/problem+json"
  | n1 => octets "Content-Type: application/vnd.3gpp.5gnas" ++ (CRLF ++ (octets "Content-Id: " ++ N1_SM_CONTENT_ID))
  | n2 => octets "Content-Type: application/vnd.3gpp.ngap" ++ (CRLF ++ (octets "Content-Id: " ++ N2_SM_CONTENT_ID))

end PartKind

/-- The line in front of a part. -/
def delimiter (boundary : Octets) : Octets := octets "--" ++ boundary

/-- The last line. -/
def closeDelimiter (boundary : Octets) : Octets := octets "--" ++ boundary ++ octets "--"

/-- A message of parts. -/
def message (boundary : Octets) : List (PartKind × Octets) → Octets
  | [] => closeDelimiter boundary ++ CRLF
  | (kind, body) :: parts =>
    delimiter boundary ++ (CRLF ++ (kind.header ++ (CRLF ++ (CRLF ++ (body ++ (CRLF ++ message boundary parts))))))

/-- The boundary is one line, has no header in it and does not end with a dash. -/
def ValidBoundary (boundary : Octets) : Prop :=
  13 ∉ boundary ∧ ¬ octets "Content-Type" <:+: boundary ∧ ∃ c ∈ boundary.getLast?, c ≠ 45

/-- No line of the body ends with a delimiter. -/
def Clean (boundary body : Octets) : Prop :=
  ¬ delimiter boundary ++ CRLF <:+: body ++ CRLF ∧ ¬ closeDelimiter boundary ++ CRLF <:+: body ++ CRLF

theorem validBoundary_curl : ValidBoundary CURL_MIME_BOUNDARY := ⟨by decide, by decide, 121, by decide, by decide⟩

theorem smfCreate_eq_message (n1Block n2Block : ℕ → UInt8) (jsonPart boundary : Octets) (n1Message n2Message : Str)
    (kind : PartKind) (hkind : kind = .json ∨ kind = .problem) :
    smfCreateMultipartRelatedContent n1Block n2Block jsonPart boundary n1Message n2Message kind.contentType =
      message boundary [(kind, jsonPart), (.n1, formatStringAsHex n1Block n1Message),
        (.n2, formatStringAsHex n2Block n2Message)] := by
  rcases hkind with rfl | rfl <;>
    simp [smfCreateMultipartRelatedContent, jsonContent, message, delimiter, closeDelimiter, n1Header, n2Header,
      PartKind.header, PartKind.contentType]

theorem smfCreateOf_eq_message (block : ℕ → UInt8) (jsonPart boundary : Octets) (text : Str)
    (kind : PartKind) (hkind : kind = .json ∨ kind = .problem) :
    smfCreateMultipartRelatedContentOf block jsonPart boundary text .nas kind.contentType =
        message boundary [(kind, jsonPart), (.n1, formatStringAsHex block text)] ∧
      smfCreateMultipartRelatedContentOf block jsonPart boundary text .ngap kind.contentType =
        message boundary [(kind, jsonPart), (.n2, formatStringAsHex block text)] := by
  rcases hkind with rfl | rfl <;>
    simp [smfCreateMultipartRelatedContentOf, jsonContent, message, delimiter, closeDelimiter, n1Header, n2Header,
      PartKind.header, PartKind.contentType]

/-! ### Searching a message -/

section

variable {boundary x a b body : Octets} {parts : List (PartKind × Octets)}

theorem first_line (hx : 13 ∉ x) (hdash : octets "--" <+: x) (h : ¬ x ++ CRLF <:+: a ++ CRLF) :
    first (x ++ CRLF) (a ++ (CRLF ++ b)) = (first (x ++ CRLF) b).map (a.length + 2 + ·) := by
  obtain ⟨y, rfl⟩ := hdash
  rw [← List.append_assoc]
  exact first_append_line hx (by simp [octets]) (by simp [octets]) h

theorem first_blank (hx : 13 ∉ x) (hdash : octets "--" <+: x) :
    first (x ++ CRLF) (CRLF ++ b) = (first (x ++ CRLF) b).map (2 + ·) := by
  have hshort : ¬ x ++ CRLF <:+: [] ++ CRLF := fun h => by
    have hlength := h.length_le
    have hlong := hdash.length_le
    have hdashes : (octets "--").length = 2 := rfl
    rw [List.length_append, List.length_append, List.length_nil] at hlength
    omega
  simpa using first_line (a := []) hx hdash hshort

theorem first_header (hx : 13 ∉ x) (hdash : octets "--" <+: x) (kind : PartKind) :
    first (x ++ CRLF) (kind.header ++ (CRLF ++ b)) = (first (x ++ CRLF) b).map (kind.header.length + 2 + ·) := by
  have hno : ∀ {line : Octets}, ¬ octets "--" <:+: line ++ CRLF → ¬ x ++ CRLF <:+: line ++ CRLF := fun hline h =>
    hline ((hdash.trans (List.prefix_append x CRLF)).isInfix.trans h)
  cases kind with
  | json | problem => exact first_line hx hdash (hno (by decide))
  | n1 | n2 =>
    simp only [PartKind.header, List.append_assoc]
    rw [first_line hx hdash (hno (by decide)), ← List.append_assoc, first_line hx hdash (hno (by decide)),
      Option.map_map]
    have hbreak : CRLF.length = 2 := rfl
    congr 1
    funext k
    simp only [Function.comp_apply, List.length_append]
    omega

theorem valid_delimiter (hB : ValidBoundary boundary) : 13 ∉ delimiter boundary := by
  simpa [delimiter, octets] using hB.1

theorem valid_closeDelimiter (hB : ValidBoundary boundary) : 13 ∉ closeDelimiter boundary := by
  simpa [closeDelimiter, octets] using hB.1

theorem dash_delimiter (boundary : Octets) : octets "--" <+: delimiter boundary := List.prefix_append _ _

theorem dash_closeDelimiter (boundary : Octets) : octets "--" <+: closeDelimiter boundary := by
  unfold closeDelimiter
  rw [List.append_assoc]
  exact List.prefix_append _ _

theorem first_delimiter_close (hB : ValidBoundary boundary) :
    first (delimiter boundary ++ CRLF) (closeDelimiter boundary ++ CRLF) = none := by
  refine first_eq_none_iff.mpr fun h => ?_
  obtain ⟨s, hs⟩ := suffix_of_infix_line (valid_closeDelimiter hB) (by decide) h
  obtain ⟨c, hc, hne⟩ := hB.2.2
  have hlast := congrArg List.getLast? hs
  have hnil : boundary ≠ [] := fun h => by simp [h] at hc
  rw [Option.mem_def] at hc
  have hdashes : closeDelimiter boundary = (octets "--" ++ boundary ++ [45]) ++ [45] := by simp [closeDelimiter, octets]
  have hright : (closeDelimiter boundary).getLast? = some 45 := by rw [hdashes, List.getLast?_concat]
  have hleft : (s ++ delimiter boundary).getLast? = some c := by
    simp [delimiter, List.getLast?_append, hc]
  rw [hleft, hright] at hlast
  exact hne (Option.some.inj hlast)

/-- From the blank line of a part, the next delimiter is the one behind its body. -/
theorem first_behind_body (hx : 13 ∉ x) (hdash : octets "--" <+: x) (hbody : ¬ x ++ CRLF <:+: body ++ CRLF) :
    first (x ++ CRLF) (CRLF ++ (CRLF ++ (body ++ (CRLF ++ b)))) =
      (first (x ++ CRLF) b).map (4 + body.length + 2 + ·) := by
  rw [first_blank hx hdash, first_blank hx hdash, first_line hx hdash hbody, Option.map_map, Option.map_map]
  congr 1
  funext k
  simp only [Function.comp_apply]
  omega

theorem length_close_le (boundary : Octets) (parts : List (PartKind × Octets)) :
    (closeDelimiter boundary ++ CRLF).length ≤ (message boundary parts).length := by
  induction parts with
  | nil => exact le_rfl
  | cons part parts ih =>
    unfold message
    simp only [List.length_append] at ih ⊢
    omega

theorem first_close_message (hB : ValidBoundary boundary) (hclean : ∀ part ∈ parts, Clean boundary part.2) :
    first (closeDelimiter boundary ++ CRLF) (message boundary parts) =
      some ((message boundary parts).length - (closeDelimiter boundary ++ CRLF).length) := by
  have hx := valid_closeDelimiter hB
  have hdash := dash_closeDelimiter boundary
  induction parts with
  | nil => simpa [message] using first_eq_zero List.prefix_rfl
  | cons part parts ih =>
    have hdelimiter : ¬ closeDelimiter boundary ++ CRLF <:+: delimiter boundary ++ CRLF := fun h => by
      have hlength := h.length_le
      simp [closeDelimiter, delimiter, octets] at hlength
    have hrest := ih fun part hp => hclean part (List.mem_cons_of_mem _ hp)
    unfold message
    rw [first_line hx hdash hdelimiter, first_header hx hdash, first_blank hx hdash,
      first_line hx hdash (hclean part List.mem_cons_self).2, hrest]
    have hbreak : CRLF.length = 2 := rfl
    have hle := length_close_le boundary parts
    simp only [Option.map_some, List.length_append, hbreak] at hle ⊢
    congr 1
    omega

/-! ### Parsing a message -/

theorem find_add (pre t p : Octets) (i : ℕ) :
    find (pre ++ t) p (pre.length + i) = ((first p (t.drop i)).map (pre.length + i + ·)).getD npos := by
  unfold find
  rw [List.drop_append, List.drop_of_length_le (Nat.le_add_right _ _), Nat.add_sub_cancel_left, List.nil_append]

theorem find_add_of_first (pre : Octets) {t p : Octets} (i : ℕ) {k : ℕ} (h : first p (t.drop i) = some k) :
    find (pre ++ t) p (pre.length + i) = pre.length + i + k := by
  rw [find_add, h, Option.map_some, Option.getD_some]

theorem substr_add {pre t : Octets} {i : ℕ} (h : i ≤ t.length) (len : ℕ) :
    substr (pre ++ t) (pre.length + i) len = some ((t.drop i).take len) := by
  unfold substr
  rw [if_neg (by simp [h]), List.drop_append, List.drop_of_length_le (Nat.le_add_right _ _), Nat.add_sub_cancel_left,
    List.nil_append]

/-- What a parser reads of the header of each kind of part. -/
def ReadsPart (head : Octets → ℕ → Octets → PartHead) (id : PartKind → Octets) : Prop :=
  ∀ kind pre t, (pre ++ (PartKind.header kind ++ (CRLF ++ (CRLF ++ t)))).length < npos →
    head (pre ++ (kind.header ++ (CRLF ++ (CRLF ++ t)))) pre.length kind.contentType =
      .found (id kind) (pre.length + kind.header.length)

theorem first_blankLine (kind : PartKind) (t : Octets) :
    first (CRLF ++ CRLF) (kind.header ++ (CRLF ++ (CRLF ++ t))) = some kind.header.length := by
  cases kind <;> rfl

theorem readsPart_smf : ReadsPart smfHead fun _ => [] := by
  intro kind pre t _
  have hblank := find_add_of_first pre 0 (first_blankLine kind t)
  unfold smfHead
  rw [Nat.add_zero] at hblank
  rw [hblank]

theorem amfHead_of_contentId {kind : PartKind} {pre t : Octets} {i : ℕ}
    (hjson : ¬ (iequals kind.contentType (octets "application/json") ∨
      iequals kind.contentType (octets "application/problem+json")))
    (hid : first (octets "Content-Id") (kind.header ++ (CRLF ++ (CRLF ++ t))) = some i)
    (hline : first CRLF ((kind.header ++ (CRLF ++ (CRLF ++ t))).drop i) = some (12 + kind.contentId.length))
    (hblank : first (CRLF ++ CRLF) ((kind.header ++ (CRLF ++ (CRLF ++ t))).drop i) = some (12 + kind.contentId.length))
    (hread : ((kind.header ++ (CRLF ++ (CRLF ++ t))).drop (i + 12)).take kind.contentId.length = kind.contentId)
    (hend : i + 12 + kind.contentId.length = kind.header.length)
    (hlen : (pre ++ (kind.header ++ (CRLF ++ (CRLF ++ t)))).length < npos) :
    amfHead (pre ++ (kind.header ++ (CRLF ++ (CRLF ++ t)))) pre.length kind.contentType =
      .found kind.contentId (pre.length + kind.header.length) := by
  have hidPos := find_add_of_first pre 0 hid
  have hlinePos := find_add_of_first pre i hline
  have hblankPos := find_add_of_first pre i hblank
  rw [List.length_append, List.length_append] at hlen
  have hrest : subSize (pre.length + i + (12 + kind.contentId.length)) (pre.length + i) =
      12 + kind.contentId.length := by
    rw [subSize_of_le (by omega) (by omega)]
    omega
  have hcount : subSize (12 + kind.contentId.length) 12 = kind.contentId.length := by
    rw [subSize_of_le (by omega) (by omega)]
    omega
  unfold amfHead
  rw [Nat.add_zero] at hidPos
  dsimp only
  rw [if_neg hjson, hidPos, if_neg (by omega), hlinePos, if_neg (by omega), addSize_of_lt (by omega), hrest, hcount,
    hblankPos, Nat.add_assoc pre.length i 12, substr_add (by rw [List.length_append]; omega), hread]
  have hplace : pre.length + i + (12 + kind.contentId.length) = pre.length + kind.header.length := by omega
  exact congrArg (PartHead.found kind.contentId) hplace

theorem readsPart_amf : ReadsPart amfHead PartKind.contentId := by
  intro kind pre t hlen
  have hblank := find_add_of_first pre 0 (first_blankLine kind t)
  cases kind with
  | json | problem =>
    unfold amfHead
    rw [if_pos (by decide)]
    exact congrArg _ hblank
  | n1 => exact amfHead_of_contentId (i := 42) (by decide) rfl rfl rfl rfl rfl hlen
  | n2 => exact amfHead_of_contentId (i := 41) (by decide) rfl rfl rfl rfl rfl hlen

theorem first_contentType_message (hB : ValidBoundary boundary) (kind : PartKind) (t : Octets) :
    first (octets "Content-Type") (delimiter boundary ++ (CRLF ++ (kind.header ++ t))) =
      some ((delimiter boundary).length + 2) := by
  have hno : ¬ octets "Content-Type" <:+: delimiter boundary := by
    have hdashes : delimiter boundary = 45 :: 45 :: boundary := rfl
    rw [hdashes, List.infix_cons_iff, List.infix_cons_iff]
    rintro (h | h | h)
    · exact absurd (List.cons_prefix_cons.mp h).1 (by decide)
    · exact absurd (List.cons_prefix_cons.mp h).1 (by decide)
    · exact hB.2.1 h
  have hnil : ¬ octets "Content-Type" <:+: [] := by decide
  have hstarts : octets "Content-Type" <+: kind.header ++ t := by
    cases kind <;> exact List.prefix_append_of_prefix (by decide)
  have hbreak : CRLF ++ (kind.header ++ t) = 13 :: ([] ++ 10 :: (kind.header ++ t)) := rfl
  rw [hbreak, first_append_separator (by decide) hno, first_append_separator (by decide) hnil, first_eq_zero hstarts]
  rfl

theorem find_behind_body (hB : ValidBoundary boundary) (hclean : Clean boundary body) {pre header str : Octets}
    (hstr : str = pre ++ (header ++ (CRLF ++ (CRLF ++ (body ++ (CRLF ++ message boundary parts))))))
    (hlen : str.length < npos) :
    (if find str (delimiter boundary ++ CRLF) (pre.length + header.length) = npos then
        find str (closeDelimiter boundary ++ CRLF) (pre.length + header.length)
      else find str (delimiter boundary ++ CRLF) (pre.length + header.length)) =
      pre.length + header.length + (4 + body.length + 2) := by
  have hnext := first_behind_body (b := message boundary parts) (valid_delimiter hB) (dash_delimiter boundary) hclean.1
  have hclose := first_behind_body (b := message boundary parts) (valid_closeDelimiter hB)
    (dash_closeDelimiter boundary) hclean.2
  have hdrop : (header ++ (CRLF ++ (CRLF ++ (body ++ (CRLF ++ message boundary parts))))).drop header.length =
      CRLF ++ (CRLF ++ (body ++ (CRLF ++ message boundary parts))) := List.drop_left
  rw [hstr, find_add, find_add, hdrop, hnext, hclose]
  cases parts with
  | nil =>
    unfold message
    rw [first_delimiter_close hB, first_eq_zero List.prefix_rfl]
    simp
  | cons part parts =>
    have hstarts : delimiter boundary ++ CRLF <+: message boundary (part :: parts) := by
      unfold message
      rw [← List.append_assoc]
      exact List.prefix_append _ _
    rw [first_eq_zero hstarts]
    have hbreak : CRLF.length = 2 := rfl
    simp only [hstr, List.length_append, hbreak] at hlen
    simp only [Option.map_some, Option.getD_some, Nat.add_zero]
    rw [if_neg (by omega)]

end

section

variable {π : Type} {head : Octets → ℕ → Octets → PartHead} {id : PartKind → Octets} {boundary : Octets}
  {addPart : π → Octets → Octets → Octets → π}

theorem parseParts_part (hhead : ReadsPart head id) (hB : ValidBoundary boundary) {kind : PartKind} {body : Octets}
    (hclean : Clean boundary body) {parts : List (PartKind × Octets)} {pre str : Octets}
    (hstr : str = pre ++ message boundary ((kind, body) :: parts)) (hlen : str.length < npos) {last : ℕ}
    (hlast : pre.length < last) (fuel : ℕ) (acc : π) :
    parseParts head addPart str (delimiter boundary ++ CRLF) (closeDelimiter boundary ++ CRLF) last (fuel + 1)
        pre.length acc =
      parseParts head addPart str (delimiter boundary ++ CRLF) (closeDelimiter boundary ++ CRLF) last fuel
        (str.length - (message boundary parts).length) (addPart acc kind.contentType (id kind) body) := by
  set t := CRLF ++ (CRLF ++ (body ++ (CRLF ++ message boundary parts))) with ht
  have hbreak : CRLF.length = 2 := rfl
  have hmessage : message boundary ((kind, body) :: parts) = delimiter boundary ++ (CRLF ++ (kind.header ++ t)) := rfl
  have hpre : str = (pre ++ (delimiter boundary ++ CRLF)) ++ (kind.header ++ t) := by
    rw [hstr, hmessage]
    simp only [List.append_assoc]
  have hcontentType := find_add_of_first pre 0 (first_contentType_message hB kind t)
  rw [← hmessage, ← hstr, Nat.add_zero] at hcontentType
  have hplace : pre.length + ((delimiter boundary).length + 2) = (pre ++ (delimiter boundary ++ CRLF)).length := by
    simp only [List.length_append, hbreak]
  rw [hplace] at hcontentType
  generalize pre ++ (delimiter boundary ++ CRLF) = pre' at hpre hcontentType
  have htLength : t.length = 4 + body.length + 2 + (message boundary parts).length := by
    simp only [ht, List.length_append, hbreak]
    omega
  have hlength : str.length = pre'.length + (kind.header.length + t.length) := by
    rw [hpre, List.length_append, List.length_append]
  have hheader : 14 + kind.contentType.length ≤ kind.header.length := by cases kind <;> decide
  have hcrlf : find str CRLF pre'.length = pre'.length + (14 + kind.contentType.length) := by
    rw [hpre]
    exact find_add_of_first pre' 0 (by cases kind <;> rfl)
  have hname : substr str (pre'.length + 14) kind.contentType.length = some kind.contentType := by
    rw [hpre, substr_add (by rw [List.length_append]; omega)]
    cases kind <;> rfl
  have hheadAt : head str pre'.length kind.contentType = .found (id kind) (pre'.length + kind.header.length) := by
    rw [hpre] at hlen ⊢
    exact hhead kind pre' _ hlen
  have hboundary := find_behind_body hB hclean hpre hlen
  have hbodyAt : substr str (pre'.length + (kind.header.length + 4)) body.length = some body := by
    have hblank : kind.header ++ t = kind.header ++ (CRLF ++ CRLF) ++ (body ++ (CRLF ++ message boundary parts)) := by
      simp [ht]
    have hdrop : (kind.header ++ t).drop (kind.header.length + 4) = body ++ (CRLF ++ message boundary parts) := by
      rw [hblank]
      exact List.drop_left' (by simp [hbreak])
    rw [hpre, substr_add (by rw [List.length_append]; omega), hdrop, List.take_left]
  have hadd14 : addSize pre'.length 14 = pre'.length + 14 := addSize_of_lt (by omega)
  have hadd4 : addSize (pre'.length + kind.header.length) 4 = pre'.length + (kind.header.length + 4) :=
    addSize_of_lt (by omega)
  have hnameLength : subSize (pre'.length + (14 + kind.contentType.length)) (pre'.length + 14) =
      kind.contentType.length := by
    rw [subSize_of_le (by omega) (by omega)]
    omega
  have hbodyLength : subSize (subSize (pre'.length + kind.header.length + (4 + body.length + 2)) 2)
      (pre'.length + (kind.header.length + 4)) = body.length := by
    have hinner : subSize (pre'.length + kind.header.length + (4 + body.length + 2)) 2 =
        pre'.length + kind.header.length + (4 + body.length) := by
      rw [subSize_of_le (by omega) (by omega)]
      omega
    rw [hinner, subSize_of_le (by omega) (by omega)]
    omega
  have hnext : str.length - (message boundary parts).length =
      pre'.length + kind.header.length + (4 + body.length + 2) := by omega
  conv_lhs => unfold parseParts
  dsimp only
  rw [if_pos hlast, hcontentType, hcrlf, if_neg (by omega), hadd14, hnameLength, hname]
  dsimp only
  rw [hheadAt]
  dsimp only
  rw [hboundary, if_pos (by omega), hadd4, hbodyLength, hbodyAt, hnext]

theorem parseParts_message (hhead : ReadsPart head id) (hB : ValidBoundary boundary)
    {parts : List (PartKind × Octets)} (hclean : ∀ part ∈ parts, Clean boundary part.2) {pre str : Octets}
    (hstr : str = pre ++ message boundary parts) (hlen : str.length < npos) {fuel : ℕ} (hfuel : parts.length < fuel)
    (acc : π) :
    parseParts head addPart str (delimiter boundary ++ CRLF) (closeDelimiter boundary ++ CRLF)
        (str.length - (closeDelimiter boundary ++ CRLF).length) fuel pre.length acc =
      some (.returns true (parts.foldl (fun acc part => addPart acc part.1.contentType (id part.1) part.2) acc)) := by
  induction parts generalizing pre fuel acc with
  | nil =>
    obtain ⟨fuel, rfl⟩ := Nat.exists_eq_succ_of_ne_zero (Nat.ne_zero_of_lt hfuel)
    unfold parseParts
    rw [if_neg]
    · rfl
    · rw [hstr]
      simp [message]
  | cons part parts ih =>
    obtain ⟨fuel, rfl⟩ := Nat.exists_eq_succ_of_ne_zero (Nat.ne_zero_of_lt hfuel)
    obtain ⟨kind, body⟩ := part
    have hclose := length_close_le boundary parts
    have hlast : pre.length < str.length - (closeDelimiter boundary ++ CRLF).length := by
      rw [hstr]
      unfold message
      have hbreak : CRLF.length = 2 := rfl
      simp only [List.length_append, hbreak] at hclose ⊢
      omega
    rw [parseParts_part hhead hB (hclean _ List.mem_cons_self) hstr hlen hlast]
    obtain ⟨pre', hpre'⟩ : ∃ pre', str = pre' ++ message boundary parts :=
      ⟨pre ++ (delimiter boundary ++ (CRLF ++ (kind.header ++ (CRLF ++ (CRLF ++ (body ++ CRLF)))))), by
        rw [hstr]
        simp [message]⟩
    have hplace : str.length - (message boundary parts).length = pre'.length := by
      rw [hpre', List.length_append, Nat.add_sub_cancel]
    rw [hplace]
    exact ih (fun part hp => hclean part (List.mem_cons_of_mem _ hp)) hpre'
      (Nat.lt_of_succ_lt_succ (by simpa using hfuel)) _

theorem length_parts_le (boundary : Octets) (parts : List (PartKind × Octets)) :
    parts.length ≤ (message boundary parts).length := by
  induction parts with
  | nil => exact Nat.zero_le _
  | cons part parts ih =>
    unfold message
    have hbreak : CRLF.length = 2 := rfl
    simp only [List.length_append, List.length_cons, hbreak]
    omega

/-- **A message of clean parts is read back.** -/
theorem parse_message (hhead : ReadsPart head id) (hB : ValidBoundary boundary) {parts : List (PartKind × Octets)}
    (hne : parts ≠ []) (hclean : ∀ part ∈ parts, Clean boundary part.2) (hlen : (message boundary parts).length < npos)
    (noParts : Bool) (acc : π) :
    parse head addPart noParts (message boundary parts) acc =
      some (.returns true (parts.foldl (fun acc part => addPart acc part.1.contentType (id part.1) part.2) acc)) := by
  obtain ⟨⟨kind, body⟩, rest, rfl⟩ := List.exists_cons_of_ne_nil hne
  set str := message boundary ((kind, body) :: rest) with hstr
  have hbreak : CRLF.length = 2 := rfl
  have hdashes : (octets "--").length = 2 := rfl
  have hpos : 0 < boundary.length := by
    obtain ⟨c, hc, -⟩ := hB.2.2
    exact List.length_pos_of_mem (List.mem_of_getLast? hc)
  have hD : (delimiter boundary).length = 2 + boundary.length := by
    rw [delimiter, List.length_append, hdashes]
  have hcontentType : find str (octets "Content-Type") 0 = boundary.length + 4 := by
    have hfirst := find_add_of_first [] 0 (first_contentType_message hB kind
      (CRLF ++ (CRLF ++ (body ++ (CRLF ++ message boundary rest)))))
    rw [hD] at hfirst
    rw [show boundary.length + 4 = List.length ([] : Octets) + 0 + (2 + boundary.length + 2) by simp; omega]
    exact hfirst
  have hlong : boundary.length + 4 ≤ str.length := by
    rw [hstr]
    unfold message
    simp only [List.length_append, hD, hbreak]
    omega
  have hboundary : substr str 2 (subSize (boundary.length + 4) 4) = some boundary := by
    rw [subSize_of_le (by omega) (by omega), Nat.add_sub_cancel]
    unfold substr
    rw [if_neg (by omega), hstr]
    exact congrArg some List.take_left
  have hlast : find str (closeDelimiter boundary ++ CRLF) 0 =
      str.length - (closeDelimiter boundary ++ CRLF).length := by
    have hfirst := find_add_of_first [] 0 (first_close_message hB hclean)
    simpa using hfirst
  have hfull : find str (octets "--" ++ boundary ++ CRLF) 0 = 0 := by
    have hstarts : delimiter boundary ++ CRLF <+: str := by
      rw [hstr]
      unfold message
      rw [← List.append_assoc]
      exact List.prefix_append _ _
    exact find_add_of_first (t := str) [] 0 (first_eq_zero hstarts)
  have hparts := length_parts_le boundary ((kind, body) :: rest)
  unfold parse
  dsimp only
  rw [hcontentType, if_neg (by omega), hboundary]
  dsimp only
  rw [hfull]
  exact hlast ▸ parseParts_message hhead hB hclean (List.nil_append str).symm hlen (Nat.lt_succ_of_le hparts) acc

end

section

variable {jsonPart boundary : Octets} {n1Message n2Message : Str} {n1 n2 : Octets}

theorem parse_created {π : Type} {head : Octets → ℕ → Octets → PartHead} {id : PartKind → Octets}
    {addPart : π → Octets → Octets → Octets → π} (hhead : ReadsPart head id) {kind : PartKind}
    (hkind : kind = .json ∨ kind = .problem) (n1Block n2Block : ℕ → UInt8) (hB : ValidBoundary boundary)
    (hn1 : IsHexOf n1Message n1) (hn2 : IsHexOf n2Message n2) (hjson : Clean boundary jsonPart)
    (hclean1 : Clean boundary n1) (hclean2 : Clean boundary n2)
    (hlen : (smfCreateMultipartRelatedContent n1Block n2Block jsonPart boundary n1Message n2Message
      kind.contentType).length < npos) (noParts : Bool) (acc : π) :
    let json := addPart acc kind.contentType (id kind) jsonPart
    let nas := fun acc => addPart acc PartKind.n1.contentType (id .n1) n1
    let ngap := fun acc => addPart acc PartKind.n2.contentType (id .n2) n2
    parse head addPart noParts (smfCreateMultipartRelatedContent n1Block n2Block jsonPart boundary n1Message n2Message
        kind.contentType) acc = some (.returns true (ngap (nas json))) ∧
      parse head addPart noParts (smfCreateMultipartRelatedContentOf n1Block jsonPart boundary n1Message .nas
        kind.contentType) acc = some (.returns true (nas json)) ∧
      parse head addPart noParts (smfCreateMultipartRelatedContentOf n2Block jsonPart boundary n2Message .ngap
        kind.contentType) acc = some (.returns true (ngap json)) := by
  have htwo := smfCreate_eq_message n1Block n2Block jsonPart boundary n1Message n2Message kind hkind
  have hnas := (smfCreateOf_eq_message n1Block jsonPart boundary n1Message kind hkind).1
  have hngap := (smfCreateOf_eq_message n2Block jsonPart boundary n2Message kind hkind).2
  rw [formatStringAsHex_of_isHexOf hn1] at htwo hnas
  rw [formatStringAsHex_of_isHexOf hn2] at htwo hngap
  rw [htwo] at hlen ⊢
  rw [hnas, hngap]
  have hlengths : (message boundary [(kind, jsonPart), (.n1, n1)]).length < npos ∧
      (message boundary [(kind, jsonPart), (.n2, n2)]).length < npos := by
    simp only [message, List.length_append] at hlen ⊢
    omega
  exact ⟨parse_message hhead hB (by simp) (by simp [hjson, hclean1, hclean2]) hlen noParts acc,
    parse_message hhead hB (by simp) (by simp [hjson, hclean1]) hlengths.1 noParts acc,
    parse_message hhead hB (by simp) (by simp [hjson, hclean2]) hlengths.2 noParts acc⟩

/-- **The SMF reads what the AMF has written**, with both messages or with one of them. -/
theorem smfParse_amf (n1Block n2Block : ℕ → UInt8) (hB : ValidBoundary boundary) (hn1 : IsHexOf n1Message n1)
    (hn2 : IsHexOf n2Message n2) (hjson : Clean boundary jsonPart) (hclean1 : Clean boundary n1)
    (hclean2 : Clean boundary n2)
    (hlen : (amfCreateMultipartRelatedContent n1Block n2Block jsonPart boundary n1Message n2Message).length < npos) :
    smfParse (amfCreateMultipartRelatedContent n1Block n2Block jsonPart boundary n1Message n2Message) =
        some (.returns true [⟨octets "application/json", jsonPart⟩, ⟨octets "application/vnd.3gpp.5gnas", n1⟩,
          ⟨octets "application/vnd.3gpp.ngap", n2⟩]) ∧
      smfParse (amfCreateMultipartRelatedContentOf n1Block jsonPart boundary n1Message .nas) =
        some (.returns true [⟨octets "application/json", jsonPart⟩, ⟨octets "application/vnd.3gpp.5gnas", n1⟩]) ∧
      smfParse (amfCreateMultipartRelatedContentOf n2Block jsonPart boundary n2Message .ngap) =
        some (.returns true [⟨octets "application/json", jsonPart⟩, ⟨octets "application/vnd.3gpp.ngap", n2⟩]) :=
  parse_created readsPart_smf (.inl rfl : PartKind.json = .json ∨ _) n1Block n2Block hB hn1 hn2 hjson hclean1 hclean2
    hlen true []

/-- **The AMF reads what the SMF has written**, in an answer or in the report of a problem. -/
theorem amfParse_smf (n1Block n2Block : ℕ → UInt8) (hB : ValidBoundary boundary) (hn1 : IsHexOf n1Message n1)
    (hn2 : IsHexOf n2Message n2) (hjson : Clean boundary jsonPart) (hclean1 : Clean boundary n1)
    (hclean2 : Clean boundary n2) {jsonFormat : Octets}
    (hformat : jsonFormat = octets "application/json" ∨ jsonFormat = octets "application/problem+json")
    (hlen : (smfCreateMultipartRelatedContent n1Block n2Block jsonPart boundary n1Message n2Message
      jsonFormat).length < npos) :
    amfParse (smfCreateMultipartRelatedContent n1Block n2Block jsonPart boundary n1Message n2Message jsonFormat) =
        some (.returns true [⟨jsonFormat, JSON_CONTENT_ID_MIME, jsonPart⟩,
          ⟨octets "application/vnd.3gpp.5gnas", N1_SM_CONTENT_ID, n1⟩,
          ⟨octets "application/vnd.3gpp.ngap", N2_SM_CONTENT_ID, n2⟩]) ∧
      amfParse (smfCreateMultipartRelatedContentOf n1Block jsonPart boundary n1Message .nas jsonFormat) =
        some (.returns true [⟨jsonFormat, JSON_CONTENT_ID_MIME, jsonPart⟩,
          ⟨octets "application/vnd.3gpp.5gnas", N1_SM_CONTENT_ID, n1⟩]) ∧
      amfParse (smfCreateMultipartRelatedContentOf n2Block jsonPart boundary n2Message .ngap jsonFormat) =
        some (.returns true [⟨jsonFormat, JSON_CONTENT_ID_MIME, jsonPart⟩,
          ⟨octets "application/vnd.3gpp.ngap", N2_SM_CONTENT_ID, n2⟩]) := by
  rcases hformat with rfl | rfl
  · exact parse_created readsPart_amf (.inl rfl : PartKind.json = .json ∨ _) n1Block n2Block hB hn1 hn2 hjson hclean1
      hclean2 hlen false []
  · exact parse_created readsPart_amf (.inr rfl : _ ∨ PartKind.problem = .problem) n1Block n2Block hB hn1 hn2 hjson
      hclean1 hclean2 hlen false []

/-- A registration with both messages. -/
theorem smfParse_amf_curl :
    smfParse (amfCreateMultipartRelatedContent (fun _ => 0) (fun _ => 0) (octets "\x7b\x7d") CURL_MIME_BOUNDARY
        ['7', 'E', '0', '0'] ['2', 'e']) =
      some (.returns true [⟨octets "application/json", octets "\x7b\x7d"⟩,
        ⟨octets "application/vnd.3gpp.5gnas", [0x7E, 0]⟩, ⟨octets "application/vnd.3gpp.ngap", [0x2E]⟩]) :=
  (smfParse_amf (fun _ => 0) (fun _ => 0) validBoundary_curl (by decide) (by decide) ⟨by decide, by decide⟩
    ⟨by decide, by decide⟩ ⟨by decide, by decide⟩ (by decide +kernel)).1

/-- The report of a problem with both messages. -/
theorem amfParse_smf_curl :
    amfParse (smfCreateMultipartRelatedContent (fun _ => 0) (fun _ => 0) (octets "\x7b\x7d") CURL_MIME_BOUNDARY
        ['7', 'E', '0', '0'] ['2', 'e'] (octets "application/problem+json")) =
      some (.returns true [⟨octets "application/problem+json", JSON_CONTENT_ID_MIME, octets "\x7b\x7d"⟩,
        ⟨octets "application/vnd.3gpp.5gnas", N1_SM_CONTENT_ID, [0x7E, 0]⟩,
        ⟨octets "application/vnd.3gpp.ngap", N2_SM_CONTENT_ID, [0x2E]⟩]) :=
  (amfParse_smf (fun _ => 0) (fun _ => 0) validBoundary_curl (by decide) (by decide) ⟨by decide, by decide⟩
    ⟨by decide, by decide⟩ ⟨by decide, by decide⟩ (.inr rfl) (by decide +kernel)).1

end

end Oai5g.Mime
