import RsNetty.Theory.HttpMessage
import RsNetty.Verify.Http.RoundTrip
import RsNetty.Verify.WebSocket.Discipline

/-!
# Where an encoded response ends

The encoder copies the reason and the fields of a response as they are, and a Content-Length field
of the response stands in for its own. `encodeHttpResponse_delimited_iff` says for which responses a
reader finds the same response, and the end of it, on the wire.
-/

namespace RsNetty.Http
open EStateM Str WebSocket

/-! ## Text and bytes -/

theorem bytesOf_injective (h : bytesOf s = bytesOf t) : s = t := by
  have hs : fromUtf8 (bytesOf s) = .ok (String.ofList s) := fromUtf8_asBytes _
  rw [h, bytesOf, fromUtf8_asBytes] at hs
  exact (String.ofList_injective (Except.ok.inj hs)).symm

theorem toLower_utf8EncodeChar (c : Char) :
    (String.utf8EncodeChar c).map HttpMessage.toLower =
      String.utf8EncodeChar (toAsciiLowercase c) := by
  have hletters : ∀ i : Fin 26,
      (String.utf8EncodeChar (Char.ofNat (65 + i))).map HttpMessage.toLower =
        String.utf8EncodeChar (toAsciiLowercase (Char.ofNat (65 + i))) := by decide
  by_cases h : 'A' ≤ c ∧ c ≤ 'Z'
  · obtain ⟨hlow, hhigh⟩ : 65 ≤ c.toNat ∧ c.toNat ≤ 90 := h
    have := hletters ⟨c.toNat - 65, by omega⟩
    rwa [Nat.add_sub_cancel' hlow, Char.ofNat_toNat] at this
  · -- no byte of another character is a capital letter
    have hbyte : ∀ b : UInt8, 0x41 ≤ b ∧ b ≤ 0x5a →
        b < 0x80 ∧ 'A' ≤ Char.ofNat b.toNat ∧ Char.ofNat b.toNat ≤ 'Z' :=
      forall_byte (by decide +kernel)
    rw [toAsciiLowercase, if_neg h]
    conv_rhs => rw [← List.map_id (String.utf8EncodeChar c)]
    refine List.map_congr_left fun b hb => if_neg fun hcapital => h ?_
    obtain ⟨hascii, hletter⟩ := hbyte b hcapital
    rwa [← char_of_mem_utf8EncodeChar hascii hb] at hletter

theorem toLower_bytesOf (s : List Char) :
    (bytesOf s).map HttpMessage.toLower = bytesOf (s.map toAsciiLowercase) := by
  rw [bytesOf, asBytes_ofList, bytesOf, asBytes_ofList, List.map_flatMap, List.flatMap_map]
  exact List.flatMap_congr fun c _ => toLower_utf8EncodeChar c

theorem decimal_repr (n : Nat) : HttpMessage.decimal (asBytes (toString n)) = some n := by
  have hdigit : ∀ d : Fin 10, bytesOf [Nat.digitChar d] = [UInt8.ofNat (48 + d)] ∧
      HttpMessage.digit (UInt8.ofNat (48 + d)) = some d.val := by decide
  have hfold : (bytesOf (Nat.toDigits 10 n)).foldlM
      (fun n b => (HttpMessage.digit b).map (n * 10 + ·)) 0 = some n := by
    induction n using Nat.strongRecOn with
    | ind n ih =>
      by_cases h : n < 10
      · obtain ⟨hbytes, hvalue⟩ := hdigit ⟨n, h⟩
        rw [Nat.toDigits_of_lt_base h, hbytes, List.foldlM_cons, hvalue]
        simp
      · obtain ⟨hbytes, hvalue⟩ := hdigit ⟨n % 10, Nat.mod_lt _ (by decide)⟩
        rw [Nat.toDigits_of_base_le (by decide) (Nat.le_of_not_lt h), bytesOf_append, hbytes,
          List.foldlM_append, ih (n / 10) (by omega), Option.bind_eq_bind, Option.bind_some,
          List.foldlM_cons, hvalue, Option.map_some, Option.bind_eq_bind, Option.bind_some,
          List.foldlM_nil]
        exact congrArg some (Nat.div_add_mod' n 10)
  have hbytes : asBytes (toString n) = bytesOf (Nat.toDigits 10 n) := rfl
  rw [hbytes, HttpMessage.decimal, if_neg, hfold]
  intro hnil
  have hdigits := bytesOf_injective (t := []) hnil
  exact Nat.toDigits_ne_nil hdigits

/-! ## Responses -/

/-- The fields on the wire, with the Content-Length field that is added where there is none. -/
def sentFields (response : HttpResponse) : List HttpMessage.Field :=
  response.headers.map (fun field => (bytesOf field.1, bytesOf field.2)) ++
    if response.headers.any (eqIgnoreAsciiCase ·.1 "Content-Length".toList) then []
    else [(asBytes "Content-Length", asBytes (toString response.body.length))]

/-- The response that a reader should find. -/
def sent (response : HttpResponse) : HttpMessage.Response where
  status := response.status.toNat
  reason := bytesOf response.reason
  fields := sentFields response
  body := response.body

/-- A response whose end does not depend on what follows it. -/
structure SelfDelimiting (response : HttpResponse) : Prop where
  reason : ¬crlf <:+: bytesOf response.reason
  fields : ∀ field ∈ response.headers, HttpMessage.Plain (bytesOf field.1, bytesOf field.2)
  length : ∀ field ∈ response.headers, eqIgnoreAsciiCase field.1 "Content-Length".toList →
    HttpMessage.decimal (bytesOf field.2) = some response.body.length

theorem isContentLength_bytesOf (field : List Char × List Char) :
    HttpMessage.isContentLength (bytesOf field.1, bytesOf field.2) =
      eqIgnoreAsciiCase field.1 "Content-Length".toList := by
  have hname : HttpMessage.contentLengthName =
      bytesOf ("Content-Length".toList.map toAsciiLowercase) := by decide
  rw [HttpMessage.isContentLength, toLower_bytesOf, hname, eqIgnoreAsciiCase]
  by_cases h : field.1.map toAsciiLowercase = "Content-Length".toList.map toAsciiLowercase
  · rw [h, beq_self_eq_true, beq_self_eq_true]
  · rw [beq_eq_false_iff_ne.2 h, beq_eq_false_iff_ne.2 fun hbytes => h (bytesOf_injective hbytes)]

theorem fieldBytes_eq (field : List Char × List Char) :
    fieldBytes field = HttpMessage.fieldLine (bytesOf field.1, bytesOf field.2) ++ crlf := by
  have hcolon : asBytes ": " = [0x3a, 0x20] := by decide
  have hcrlf : asBytes "\r\n" = crlf := by decide
  rw [fieldBytes, hcolon, hcrlf, HttpMessage.fieldLine]
  simp

/-- The encoder writes the response as its reader expects it. -/
theorem responseBytes_eq (response : HttpResponse) : responseBytes response =
    HttpMessage.writeResponse (asBytes (toString response.status.toNat)) (sent response) := by
  have hversion : asBytes "HTTP/1.1 " = HttpMessage.version ++ [0x20] := by decide
  have hspace : asBytes " " = [0x20] := by decide
  have hcrlf : asBytes "\r\n" = crlf := by decide
  have hname : asBytes "Content-Length: " = asBytes "Content-Length" ++ [0x3a, 0x20] := by
    decide
  have hfields : HttpMessage.writeFields (sentFields response) =
      response.headers.flatMap fieldBytes ++
        (if response.headers.any (eqIgnoreAsciiCase ·.1 "Content-Length".toList) then []
          else asBytes "Content-Length: " ++ asBytes (toString response.body.length) ++ crlf) ++
        crlf := by
    rw [HttpMessage.writeFields, sentFields, List.flatMap_append, List.flatMap_map]
    have hsent : (fun field : List Char × List Char =>
        HttpMessage.fieldLine (bytesOf field.1, bytesOf field.2) ++ HttpMessage.crlf) =
        fieldBytes := funext fun field => (fieldBytes_eq field).symm
    rw [hsent]
    split
    · rfl
    · rw [hname, List.flatMap_singleton, HttpMessage.fieldLine]
      simp only [List.append_assoc, List.cons_append, List.nil_append]
      rfl
  rw [responseBytes, hversion, hspace, hcrlf, HttpMessage.writeResponse, sent, hfields]
  simp only [List.append_assoc, List.cons_append, List.nil_append]
  rfl

theorem selfDelimiting_iff (response : HttpResponse) :
    SelfDelimiting response ↔ ¬HttpMessage.crlf <:+: (sent response).reason ∧
      (∀ field ∈ (sent response).fields, HttpMessage.Plain field) ∧
        HttpMessage.bodyLen (sent response).fields = some (sent response).body.length := by
  have hadded : HttpMessage.Plain
      (asBytes "Content-Length", asBytes (toString response.body.length)) :=
    HttpMessage.plain_decimal (by decide) (by decide) (decimal_repr _)
  have hisAdded : HttpMessage.isContentLength
      (asBytes "Content-Length", asBytes (toString response.body.length)) = true := by
    have hname : ((asBytes "Content-Length").map HttpMessage.toLower ==
      HttpMessage.contentLengthName) = true := by decide
    exact hname
  rw [HttpMessage.bodyLen_eq_some_iff]
  constructor
  · intro h
    have hown : ∀ field ∈ response.headers.map fun field => (bytesOf field.1, bytesOf field.2),
        HttpMessage.Plain field ∧ (HttpMessage.isContentLength field →
          HttpMessage.decimal field.2 = some response.body.length) := by
      refine List.forall_mem_map.2 fun field hfield => ⟨h.fields field hfield, fun hname => ?_⟩
      exact h.length field hfield ((isContentLength_bytesOf field).symm.trans hname)
    rw [sent, sentFields]
    by_cases hany : response.headers.any (eqIgnoreAsciiCase ·.1 "Content-Length".toList)
    · rw [if_pos hany, List.append_nil]
      obtain ⟨field, hfield, hname⟩ := List.any_eq_true.1 hany
      exact ⟨h.reason, fun field hfield => (hown field hfield).1,
        ⟨_, List.mem_map.2 ⟨field, hfield, rfl⟩, (isContentLength_bytesOf field).trans hname⟩,
        fun field hfield => (hown field hfield).2⟩
    · rw [if_neg hany]
      refine ⟨h.reason, ?_, ⟨_, List.mem_append_right _ List.mem_cons_self, hisAdded⟩, ?_⟩
      · intro field hfield
        rcases List.mem_append.1 hfield with hfield | hfield
        · exact (hown field hfield).1
        · exact List.mem_singleton.1 hfield ▸ hadded
      · intro field hfield hname
        rcases List.mem_append.1 hfield with hfield | hfield
        · exact (hown field hfield).2 hname
        · rw [List.mem_singleton.1 hfield]
          exact decimal_repr _
  · rintro ⟨hreason, hfields, -, hlength⟩
    have hmem {field : List Char × List Char} (hfield : field ∈ response.headers) :
        (bytesOf field.1, bytesOf field.2) ∈ (sent response).fields :=
      List.mem_append_left _ (List.mem_map.2 ⟨field, hfield, rfl⟩)
    refine ⟨hreason, fun field hfield => hfields _ (hmem hfield), fun field hfield hname => ?_⟩
    exact hlength _ (hmem hfield) ((isContentLength_bytesOf field).trans hname)

/-- The encoder accepts every response. A reader finds the response that was sent, and the bytes
that follow it, exactly if the response is self-delimiting. -/
theorem encodeHttpResponse_delimited_iff (response : HttpResponse) (dst rest : BytesMut) :
    ∃ w, encodeHttpResponse response dst = .ok () (dst ++ w) ∧
      (HttpMessage.readResponse (w ++ rest) = some (sent response, rest) ↔
        SelfDelimiting response) := by
  refine ⟨responseBytes response, emits_encodeHttpResponse response dst, ?_⟩
  have hstatus : HttpMessage.decimal (asBytes (toString response.status.toNat)) =
      some (sent response).status := decimal_repr _
  rw [responseBytes_eq, HttpMessage.readResponse_append_iff hstatus, selfDelimiting_iff]

/-- A Content-Length field that says less than the body leaves the rest of the body in front of the
next response. -/
theorem not_delimited_declaredLength :
    ¬∀ (response : HttpResponse) (dst rest w : BytesMut),
      encodeHttpResponse response dst = .ok () (dst ++ w) →
        HttpMessage.readResponse (w ++ rest) = some (sent response, rest) := by
  intro h
  let response : HttpResponse := ⟨200, "OK".toList, [("Content-Length".toList, "0".toList)], [7]⟩
  have hread := h response [] [] _ (emits_encodeHttpResponse response [])
  have hlength := (HttpMessage.readResponse_eq_some hread).2.2
  exact absurd hlength (by decide)

end RsNetty.Http
