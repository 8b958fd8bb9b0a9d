import Mathlib.Data.List.DropRight
import RsNetty.Theory.Window

/-!
# HTTP/1.1 responses as their reader splits them

The status line ends at the first CRLF, each field at the next, and the fields at an empty line;
the body has as many bytes as the Content-Length fields say. `readResponse_append_iff` says which
responses that were written one after the other are read again as they were.
-/

namespace HttpMessage

/-! ## Lines -/

def crlf : List UInt8 := [0x0d, 0x0a]

/-- A line without its end, and what follows. -/
def readLine (src : List UInt8) : Option (List UInt8 × List UInt8) :=
  (Window.find crlf src).map fun k => (src.take k, src.drop (k + 2))

theorem readLine_eq_some_iff {src line rest : List UInt8} :
    readLine src = some (line, rest) ↔ src = line ++ (crlf ++ rest) ∧ ¬crlf <:+: line := by
  constructor
  · intro h
    obtain ⟨k, hk, heq⟩ := Option.map_eq_some_iff.1 h
    cases heq
    obtain ⟨t, ht⟩ := Window.prefix_drop_of_find hk
    have hrest : src.drop (k + 2) = t := by
      rw [← List.drop_drop, ← ht]
      rfl
    rw [hrest, ht, List.take_append_drop]
    exact ⟨rfl, Window.not_infix_take_of_find (by decide) hk⟩
  · rintro ⟨rfl, h⟩
    have hfind : Window.find crlf (line ++ (crlf ++ rest)) = some line.length :=
      Window.find_pair (by decide) h rest
    have hdrop : (line ++ (crlf ++ rest)).drop (line.length + 2) = rest := by
      rw [← List.drop_drop, List.drop_left]
      rfl
    rw [readLine, hfind, Option.map_some, List.take_left, hdrop]

/-- The string in front of the first such byte, and behind it. -/
def cutAt (c : UInt8) : List UInt8 → Option (List UInt8 × List UInt8)
  | [] => none
  | b :: bs => if b = c then some ([], bs) else (cutAt c bs).map fun p => (b :: p.1, p.2)

theorem cutAt_eq_some_iff {c : UInt8} {bs before after : List UInt8} :
    cutAt c bs = some (before, after) ↔ bs = before ++ c :: after ∧ c ∉ before := by
  induction bs generalizing before with
  | nil =>
    refine iff_of_false nofun ?_
    rintro ⟨h, -⟩
    exact List.cons_ne_nil _ _ (List.append_eq_nil_iff.1 h.symm).2
  | cons b bs ih =>
    rw [cutAt]
    by_cases hb : b = c
    · rw [if_pos hb]
      constructor
      · intro h
        cases h
        exact ⟨by rw [hb]; rfl, List.not_mem_nil⟩
      · rintro ⟨h, hnot⟩
        cases before with
        | nil =>
          cases h
          rfl
        | cons d before =>
          cases h
          exact absurd (hb ▸ List.mem_cons_self) hnot
    · rw [if_neg hb]
      constructor
      · intro h
        obtain ⟨⟨before', after'⟩, hcut, heq⟩ := Option.map_eq_some_iff.1 h
        cases heq
        obtain ⟨rfl, hnot⟩ := ih.1 hcut
        exact ⟨rfl, fun hmem => (List.mem_cons.1 hmem).elim (fun h => hb h.symm) hnot⟩
      · rintro ⟨h, hnot⟩
        cases before with
        | nil =>
          cases h
          exact absurd rfl hb
        | cons d before =>
          cases h
          rw [ih.2 ⟨rfl, fun hmem => hnot (List.mem_cons_of_mem _ hmem)⟩]
          rfl

/-! ## White space and numerals -/

def isOws (b : UInt8) : Bool := b == 0x20 || b == 0x09

/-- Without the spaces and tabs on both sides. -/
def trimOws (bs : List UInt8) : List UInt8 := (bs.dropWhile isOws).rdropWhile isOws

theorem trimOws_space (bs : List UInt8) : trimOws (0x20 :: bs) = trimOws bs := rfl

theorem trimOws_isInfix (bs : List UInt8) : trimOws bs <:+: bs :=
  (List.rdropWhile_prefix _ _).isInfix.trans (List.dropWhile_suffix _).isInfix

theorem trimOws_trimOws (bs : List UInt8) : trimOws (trimOws bs) = trimOws bs := by
  have hhead : (trimOws bs).dropWhile isOws = trimOws bs := by
    rw [List.dropWhile_eq_self_iff]
    intro hlen hows
    have hprefix : trimOws bs <+: bs.dropWhile isOws := List.rdropWhile_prefix _ _
    have hfirst := hprefix.getElem hlen
    rw [hfirst] at hows
    exact List.dropWhile_get_zero_not isOws bs (Nat.lt_of_lt_of_le hlen hprefix.length_le) hows
  rw [trimOws, hhead, trimOws, List.rdropWhile_idempotent]

theorem trimOws_of_forall {bs : List UInt8} (h : ∀ b ∈ bs, isOws b = false) : trimOws bs = bs := by
  have hleft : bs.dropWhile isOws = bs := List.dropWhile_eq_self_iff.2 fun hlen => by
    rw [h _ (List.getElem_mem hlen)]
    exact Bool.false_ne_true
  rw [trimOws, hleft, List.rdropWhile_eq_self_iff]
  intro hne
  rw [h _ (List.getLast_mem hne)]
  exact Bool.false_ne_true

def digit (b : UInt8) : Option Nat :=
  if 0x30 ≤ b ∧ b ≤ 0x39 then some (b.toNat - 0x30) else none

/-- The number that a string of decimal digits spells. -/
def decimal (bs : List UInt8) : Option Nat :=
  if bs = [] then none else bs.foldlM (fun n b => (digit b).map (n * 10 + ·)) 0

/-! ## Fields -/

abbrev Field := List UInt8 × List UInt8

def readField (line : List UInt8) : Option Field :=
  (cutAt 0x3a line).map fun p => (p.1, trimOws p.2)

theorem readLine_length_lt {src line rest : List UInt8} (h : readLine src = some (line, rest)) :
    rest.length < src.length := by
  obtain ⟨rfl, -⟩ := readLine_eq_some_iff.1 h
  simp only [List.length_append, crlf, List.length_cons, List.length_nil]
  omega

/-- The fields up to the empty line, and what follows it. -/
def readFields (src : List UInt8) : Option (List Field × List UInt8) :=
  match h : readLine src with
  | none => none
  | some (line, rest) =>
    if line = [] then some ([], rest)
    else
      have := readLine_length_lt h
      (readField line).bind fun field => (readFields rest).map fun p => (field :: p.1, p.2)
termination_by src.length

theorem readFields_of_readLine {src line rest : List UInt8} (h : readLine src = some (line, rest)) :
    readFields src =
      if line = [] then some ([], rest)
      else (readField line).bind fun field => (readFields rest).map fun p => (field :: p.1, p.2) := by
  rw [readFields]
  split
  case h_1 hnone => cases h.symm.trans hnone
  case h_2 hsome =>
    cases h.symm.trans hsome
    rfl

/-- A field that can be read back: its name holds no colon, its value has no white space around it,
and neither holds a line end. -/
structure Plain (field : Field) : Prop where
  colon : 0x3a ∉ field.1
  name : ¬crlf <:+: field.1
  value : ¬crlf <:+: field.2
  ows : trimOws field.2 = field.2

theorem plain_of_readField {line : List UInt8} {field : Field} (hline : ¬crlf <:+: line)
    (h : readField line = some field) : Plain field := by
  obtain ⟨⟨name, value⟩, hcut, rfl⟩ := Option.map_eq_some_iff.1 h
  obtain ⟨rfl, hcolon⟩ := cutAt_eq_some_iff.1 hcut
  have hname : name <:+: name ++ 0x3a :: value := (List.prefix_append _ _).isInfix
  have hvalue : trimOws value <:+: name ++ 0x3a :: value :=
    (trimOws_isInfix value).trans
      ((List.suffix_cons _ _).trans (List.suffix_append _ _)).isInfix
  exact ⟨hcolon, fun h => hline (h.trans hname), fun h => hline (h.trans hvalue),
    trimOws_trimOws value⟩

/-- Only fields that can be read back are ever read. -/
theorem plain_of_readFields {src rest : List UInt8} {fields : List Field}
    (h : readFields src = some (fields, rest)) : ∀ field ∈ fields, Plain field := by
  induction hlen : src.length using Nat.strongRecOn generalizing src fields with
  | ind n ih =>
    subst hlen
    cases hline : readLine src with
    | none =>
      rw [readFields] at h
      split at h
      case h_1 => cases h
      case h_2 hsome => cases hline.symm.trans hsome
    | some p =>
      obtain ⟨line, after⟩ := p
      rw [readFields_of_readLine hline] at h
      split at h
      case isTrue =>
        cases h
        exact nofun
      case isFalse =>
        obtain ⟨field, hfield, h⟩ := Option.bind_eq_some_iff.1 h
        obtain ⟨⟨fields', rest'⟩, hfields, heq⟩ := Option.map_eq_some_iff.1 h
        cases heq
        exact List.forall_mem_cons.2
          ⟨plain_of_readField (readLine_eq_some_iff.1 hline).2 hfield,
            ih _ (readLine_length_lt hline) hfields rfl⟩

/-- `name: value` -/
def fieldLine (field : Field) : List UInt8 := field.1 ++ 0x3a :: 0x20 :: field.2

/-- Fields, each with its line end, and the empty line. -/
def writeFields (fields : List Field) : List UInt8 :=
  fields.flatMap (fun field => fieldLine field ++ crlf) ++ crlf

theorem Plain.not_infix_fieldLine {field : Field} (h : Plain field) :
    ¬crlf <:+: fieldLine field := by
  intro hline
  rcases Window.infix_of_append_cons (by decide) (by decide) hline with hname | hvalue
  · exact h.name hname
  · have hvalue : crlf <:+: [] ++ 0x20 :: field.2 := hvalue
    rcases Window.infix_of_append_cons (by decide) (by decide) hvalue with hnil | hvalue
    · exact absurd (List.infix_nil.1 hnil) (by decide)
    · exact h.value hvalue

theorem Plain.readField {field : Field} (h : Plain field) :
    readField (fieldLine field) = some field := by
  have hcut : cutAt 0x3a (fieldLine field) = some (field.1, 0x20 :: field.2) :=
    cutAt_eq_some_iff.2 ⟨rfl, h.colon⟩
  rw [HttpMessage.readField, hcut, Option.map_some, trimOws_space, h.ows]

theorem readFields_writeFields {fields : List Field} (h : ∀ field ∈ fields, Plain field)
    (rest : List UInt8) : readFields (writeFields fields ++ rest) = some (fields, rest) := by
  induction fields with
  | nil =>
    have hline : readLine (writeFields [] ++ rest) = some ([], rest) :=
      readLine_eq_some_iff.2 ⟨rfl, by decide⟩
    rw [readFields_of_readLine hline, if_pos rfl]
  | cons field fields ih =>
    obtain ⟨hfield, hfields⟩ := List.forall_mem_cons.1 h
    have hline : readLine (writeFields (field :: fields) ++ rest) =
        some (fieldLine field, writeFields fields ++ rest) :=
      readLine_eq_some_iff.2 ⟨by simp [writeFields], hfield.not_infix_fieldLine⟩
    have hne : fieldLine field ≠ [] := List.append_ne_nil_of_right_ne_nil _ (List.cons_ne_nil _ _)
    rw [readFields_of_readLine hline, if_neg hne, hfield.readField, Option.bind_some, ih hfields]
    rfl

/-! ## Responses -/

structure Response where
  status : Nat
  reason : List UInt8
  fields : List Field
  body : List UInt8
deriving DecidableEq, Repr

/-- `HTTP/1.1` -/
def version : List UInt8 := [0x48, 0x54, 0x54, 0x50, 0x2f, 0x31, 0x2e, 0x31]

def readStatusLine (line : List UInt8) : Option (Nat × List UInt8) := do
  let (first, rest) ← cutAt 0x20 line
  let (code, reason) ← cutAt 0x20 rest
  if first = version then (decimal code).map (·, reason) else none

def toLower (b : UInt8) : UInt8 := if 0x41 ≤ b ∧ b ≤ 0x5a then b + 0x20 else b

/-- `content-length` -/
def contentLengthName : List UInt8 :=
  [0x63, 0x6f, 0x6e, 0x74, 0x65, 0x6e, 0x74, 0x2d, 0x6c, 0x65, 0x6e, 0x67, 0x74, 0x68]

def isContentLength (field : Field) : Bool := field.1.map toLower == contentLengthName

/-- The length that the Content-Length fields say, of which there is one at least. -/
def bodyLen (fields : List Field) : Option Nat :=
  match (fields.filter isContentLength).map fun field => decimal field.2 with
  | [] => none
  | len :: lens => if ∀ len' ∈ lens, len' = len then len else none

/-- A response at the front of a stream, and what follows it. -/
def readResponse (src : List UInt8) : Option (Response × List UInt8) := do
  let (line, rest) ← readLine src
  let (status, reason) ← readStatusLine line
  let (fields, rest) ← readFields rest
  let len ← bodyLen fields
  if rest.length < len then none
  else some (⟨status, reason, fields, rest.take len⟩, rest.drop len)

theorem bodyLen_eq_some_iff {fields : List Field} {len : Nat} :
    bodyLen fields = some len ↔ (∃ field ∈ fields, isContentLength field) ∧
      ∀ field ∈ fields, isContentLength field → decimal field.2 = some len := by
  have hmem (field : Field) : field ∈ fields.filter isContentLength ↔
      field ∈ fields ∧ isContentLength field := List.mem_filter
  rw [bodyLen]
  cases hfilter : fields.filter isContentLength with
  | nil =>
    rw [hfilter] at hmem
    refine iff_of_false nofun ?_
    rintro ⟨⟨field, h⟩, -⟩
    cases (hmem field).2 h
  | cons first others =>
    rw [hfilter] at hmem
    have hfirst := (hmem first).1 List.mem_cons_self
    simp only [List.map_cons, List.forall_mem_map]
    constructor
    · intro h
      split at h
      case isFalse => cases h
      case isTrue hsame =>
        refine ⟨⟨first, hfirst⟩, fun field hfield hlen => ?_⟩
        rcases List.mem_cons.1 ((hmem field).2 ⟨hfield, hlen⟩) with rfl | hother
        · exact h
        · exact (hsame field hother).trans h
    · rintro ⟨-, h⟩
      have hsame : ∀ field ∈ others, decimal field.2 = decimal first.2 := by
        intro field hother
        have := (hmem field).1 (List.mem_cons_of_mem _ hother)
        rw [h field this.1 this.2, h first hfirst.1 hfirst.2]
      rw [if_pos hsame, h first hfirst.1 hfirst.2]

theorem digit_of_decimal {bs : List UInt8} {n : Nat} (h : decimal bs = some n) :
    ∀ b ∈ bs, 0x30 ≤ b := by
  have hdigits {m : Nat} : bs.foldlM (fun n b => (digit b).map (n * 10 + ·)) m = some n →
      ∀ b ∈ bs, 0x30 ≤ b := by
    clear h
    induction bs generalizing m with
    | nil => exact fun _ => nofun
    | cons b bs ih =>
      intro h
      rw [List.foldlM_cons] at h
      obtain ⟨m', hm', h⟩ := Option.bind_eq_some_iff.1 h
      obtain ⟨d, hd, rfl⟩ := Option.map_eq_some_iff.1 hm'
      refine List.forall_mem_cons.2 ⟨?_, ih h⟩
      rw [digit] at hd
      split at hd
      case isTrue hb => exact hb.1
      case isFalse => cases hd
  rw [decimal] at h
  split at h
  case isTrue => cases h
  case isFalse => exact hdigits h

/-- A numeral can be read back as the value of a field. -/
theorem plain_decimal {name value : List UInt8} {n : Nat} (hcolon : 0x3a ∉ name)
    (hname : ¬crlf <:+: name) (h : decimal value = some n) : Plain (name, value) := by
  have hdigits := digit_of_decimal h
  refine ⟨hcolon, hname, fun hline => ?_, trimOws_of_forall fun b hb => ?_⟩
  · exact absurd (hdigits 0x0d (hline.subset (by decide))) (by decide)
  · have hows : ∀ b : UInt8, 0x30 ≤ b → isOws b = false := by
      intro b hb
      rw [isOws, Bool.or_eq_false_iff, beq_eq_false_iff_ne, beq_eq_false_iff_ne]
      exact ⟨fun h => absurd (h ▸ hb) (by decide), fun h => absurd (h ▸ hb) (by decide)⟩
    exact hows b (hdigits b hb)

/-- A response with this status code, written out. -/
def writeResponse (code : List UInt8) (response : Response) : List UInt8 :=
  version ++ 0x20 :: (code ++ 0x20 :: response.reason) ++ crlf ++ writeFields response.fields ++
    response.body

theorem readStatusLine_eq_some {line reason : List UInt8} {status : Nat}
    (h : readStatusLine line = some (status, reason)) : reason <:+ line := by
  obtain ⟨⟨first, rest⟩, hfirst, hrest⟩ := Option.bind_eq_some_iff.1 h
  obtain ⟨⟨code, reason'⟩, hcode, hstatus⟩ := Option.bind_eq_some_iff.1 hrest
  obtain ⟨rfl, -⟩ := cutAt_eq_some_iff.1 hfirst
  obtain ⟨rfl, -⟩ := cutAt_eq_some_iff.1 hcode
  dsimp only at hstatus
  split at hstatus
  case isFalse => cases hstatus
  case isTrue =>
    obtain ⟨_, -, hstatus⟩ := Option.map_eq_some_iff.1 hstatus
    cases hstatus
    exact ((List.suffix_cons _ _).trans (List.suffix_append _ _)).trans
      ((List.suffix_cons _ _).trans (List.suffix_append _ _))

/-- The parts of a response that was read. -/
theorem readResponse_eq_some {src rest : List UInt8} {response : Response}
    (h : readResponse src = some (response, rest)) :
    ¬crlf <:+: response.reason ∧ (∀ field ∈ response.fields, Plain field) ∧
      bodyLen response.fields = some response.body.length := by
  obtain ⟨⟨line, rest₁⟩, hline, h⟩ := Option.bind_eq_some_iff.1 h
  obtain ⟨⟨status, reason⟩, hstatus, h⟩ := Option.bind_eq_some_iff.1 h
  obtain ⟨⟨fields, rest₂⟩, hfields, h⟩ := Option.bind_eq_some_iff.1 h
  obtain ⟨len, hlen, h⟩ := Option.bind_eq_some_iff.1 h
  split at h
  case isTrue => cases h
  case isFalse hcomplete =>
    cases h
    have hreason := (readStatusLine_eq_some hstatus).isInfix
    refine ⟨fun h => (readLine_eq_some_iff.1 hline).2 (h.trans hreason),
      plain_of_readFields hfields, ?_⟩
    rw [List.length_take, Nat.min_eq_left (Nat.le_of_not_lt hcomplete)]
    exact hlen

/-- A written response is read as it was, and what follows it is left, exactly if its reason holds
no line end, its fields can be read back, and its Content-Length fields say the length of the body. -/
theorem readResponse_append_iff {code : List UInt8} {response : Response}
    (hcode : decimal code = some response.status) (rest : List UInt8) :
    readResponse (writeResponse code response ++ rest) = some (response, rest) ↔
      ¬crlf <:+: response.reason ∧ (∀ field ∈ response.fields, Plain field) ∧
        bodyLen response.fields = some response.body.length := by
  refine ⟨readResponse_eq_some, ?_⟩
  rintro ⟨hreason, hplain, hlen⟩
  have hdigits := digit_of_decimal hcode
  have hspace : 0x20 ∉ code := fun h => absurd (hdigits _ h) (by decide)
  have hline : ¬crlf <:+: version ++ 0x20 :: (code ++ 0x20 :: response.reason) := by
    intro h
    rcases Window.infix_of_append_cons (by decide) (by decide) h with h | h
    · exact absurd h (by decide)
    · rcases Window.infix_of_append_cons (by decide) (by decide) h with h | h
      · exact absurd (hdigits 0x0d (h.subset (by decide))) (by decide)
      · exact hreason h
  have hread : readLine (writeResponse code response ++ rest) =
      some (version ++ 0x20 :: (code ++ 0x20 :: response.reason),
        writeFields response.fields ++ (response.body ++ rest)) :=
    readLine_eq_some_iff.2 ⟨by simp [writeResponse], hline⟩
  have hstatus : readStatusLine (version ++ 0x20 :: (code ++ 0x20 :: response.reason)) =
      some (response.status, response.reason) := by
    rw [readStatusLine, cutAt_eq_some_iff.2 ⟨rfl, by decide⟩]
    simp only [Option.bind_eq_bind, Option.bind_some]
    rw [cutAt_eq_some_iff.2 ⟨rfl, hspace⟩, Option.bind_some, if_pos trivial, hcode, Option.map_some]
  rw [readResponse, hread]
  simp only [Option.bind_eq_bind, Option.bind_some, hstatus]
  rw [readFields_writeFields hplain, Option.bind_some, hlen, Option.bind_some,
    if_neg (by simp), List.take_left, List.drop_left]

/-! ## A stream of responses -/

theorem readLine_append {src line rest : List UInt8} (h : readLine src = some (line, rest))
    (more : List UInt8) : readLine (src ++ more) = some (line, rest ++ more) := by
  obtain ⟨rfl, hline⟩ := readLine_eq_some_iff.1 h
  exact readLine_eq_some_iff.2 ⟨by simp, hline⟩

/-- What the empty line is found in stays what it is, and something is taken off the input. -/
theorem readFields_append {src rest : List UInt8} {fields : List Field}
    (h : readFields src = some (fields, rest)) (more : List UInt8) :
    readFields (src ++ more) = some (fields, rest ++ more) ∧ rest.length < src.length := by
  induction hlen : src.length using Nat.strongRecOn generalizing src fields with
  | ind n ih =>
    subst hlen
    cases hline : readLine src with
    | none =>
      rw [readFields] at h
      split at h
      case h_1 => cases h
      case h_2 hsome => cases hline.symm.trans hsome
    | some p =>
      obtain ⟨line, after⟩ := p
      have hlt := readLine_length_lt hline
      rw [readFields_of_readLine hline] at h
      rw [readFields_of_readLine (readLine_append hline more)]
      split at h
      case isTrue hempty =>
        cases h
        exact ⟨if_pos hempty, hlt⟩
      case isFalse hempty =>
        obtain ⟨field, hfield, h⟩ := Option.bind_eq_some_iff.1 h
        obtain ⟨⟨fields', rest'⟩, hfields, heq⟩ := Option.map_eq_some_iff.1 h
        cases heq
        obtain ⟨hmore, hlt'⟩ := ih _ hlt hfields rfl
        rw [if_neg hempty, hfield, Option.bind_some, hmore]
        exact ⟨rfl, hlt'.trans hlt⟩

/-- A response that is there stays there, whatever comes behind it. -/
theorem readResponse_append {src rest : List UInt8} {response : Response}
    (h : readResponse src = some (response, rest)) (more : List UInt8) :
    readResponse (src ++ more) = some (response, rest ++ more) ∧ rest.length < src.length := by
  obtain ⟨⟨line, rest₁⟩, hline, h⟩ := Option.bind_eq_some_iff.1 h
  obtain ⟨⟨status, reason⟩, hstatus, h⟩ := Option.bind_eq_some_iff.1 h
  obtain ⟨⟨fields, rest₂⟩, hfields, h⟩ := Option.bind_eq_some_iff.1 h
  obtain ⟨len, hlen, h⟩ := Option.bind_eq_some_iff.1 h
  split at h
  case isTrue => cases h
  case isFalse hcomplete =>
    cases h
    have hcomplete := Nat.le_of_not_lt hcomplete
    obtain ⟨hfields, hlt⟩ := readFields_append hfields more
    have hcomplete' : ¬(rest₂ ++ more).length < len := by
      rw [List.length_append]
      omega
    constructor
    · rw [readResponse, readLine_append hline more]
      simp only [Option.bind_eq_bind, Option.bind_some]
      rw [hstatus, Option.bind_some, hfields, Option.bind_some, hlen, Option.bind_some,
        if_neg hcomplete', List.take_append_of_le_length hcomplete,
        List.drop_append_of_le_length hcomplete]
    · have := readLine_length_lt hline
      rw [List.length_drop]
      omega

/-- The responses at the front of a stream, up to the first that is not there as a whole. -/
def readResponses (src : List UInt8) : List Response :=
  match h : readResponse src with
  | none => []
  | some (response, rest) =>
    have := (readResponse_append h []).2
    response :: readResponses rest
termination_by src.length

theorem readResponses_of_none {src : List UInt8} (h : readResponse src = none) :
    readResponses src = [] := by
  rw [readResponses]
  split
  case h_1 => rfl
  case h_2 hsome => cases h.symm.trans hsome

theorem readResponses_of_some {src rest : List UInt8} {response : Response}
    (h : readResponse src = some (response, rest)) :
    readResponses src = response :: readResponses rest := by
  rw [readResponses]
  split
  case h_1 hnone => cases h.symm.trans hnone
  case h_2 hsome =>
    cases h.symm.trans hsome
    rfl

/-- More input only adds to the responses. -/
theorem readResponses_mono {src src' : List UInt8} (h : src <+: src') :
    readResponses src <+: readResponses src' := by
  obtain ⟨more, rfl⟩ := h
  induction hlen : src.length using Nat.strongRecOn generalizing src with
  | ind n ih =>
    subst hlen
    cases hread : readResponse src with
    | none =>
      rw [readResponses_of_none hread]
      exact List.nil_prefix
    | some p =>
      obtain ⟨response, rest⟩ := p
      obtain ⟨hmore, hlt⟩ := readResponse_append hread more
      rw [readResponses_of_some hread, readResponses_of_some hmore]
      exact List.cons_prefix_cons.2 ⟨rfl, ih _ hlt rfl⟩

/-- Messages that are written so that each is read alone are read as they were written. -/
theorem readResponses_flatMap {M : Type} {wire : M → List UInt8} {sent : M → Response}
    {msgs : List M} (h : ∀ m ∈ msgs, ∀ rest, readResponse (wire m ++ rest) = some (sent m, rest)) :
    readResponses (msgs.flatMap wire) = msgs.map sent := by
  induction msgs with
  | nil => exact readResponses_of_none rfl
  | cons m msgs ih =>
    obtain ⟨hm, hmsgs⟩ := List.forall_mem_cons.1 h
    rw [List.flatMap_cons, readResponses_of_some (hm _), ih hmsgs, List.map_cons]

end HttpMessage
