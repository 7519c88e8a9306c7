import Mathlib
import QueryImpact.Proofs.Json.Record
import QueryImpact.Proofs.Json.Text

/-!
# Records that are read back

A record can be read back from its JSON value, from the array of its field values, and from its
text.  On the way through a text only floating-point numbers can change, so a record is read back
from its text exactly when each of its floating-point numbers is read back from its own notation.
-/

namespace QueryImpact.Json

variable {α β γ : Type}

/-- Every one of the numbers is read back from its notation. -/
def Kept (floats : List Float) : Prop :=
  ∀ number ∈ floats, parse? (Decimal.exact number) = some (.float number)

@[simp]
theorem kept_nil : Kept [] := by
  simp [Kept]

@[simp]
theorem kept_append {first second : List Float} :
    Kept (first ++ second) ↔ Kept first ∧ Kept second :=
  List.forall_mem_append

/-- A record is read back from every form it is written in.  `names` lists its fields in
declaration order, and `floats` are the floating-point numbers in it. -/
structure Restored (encode : α → Json) (decode : Decoder α) (names : List String)
    (floats : List Float) (record : α) : Prop where
  /-- It is read back from its JSON value. -/
  fromValue : decode (encode record) = .ok record
  /-- It is read back from the array of its field values. -/
  fromItems : decode ((encode record).listing names) = .ok record
  /-- It is read back from its text exactly when its floating-point numbers are. -/
  fromText : (parse? (encode record).render).map decode = some (.ok record) ↔ Kept floats

/-! ## Values read again -/

/-- Once written and read again, a value decodes to a record that differs from the given one
exactly in the floating-point numbers that are not read back. -/
inductive Rereads (decode : Decoder α) (value : Json) (record : α) (floats : List Float) : Prop
  /-- A number is refused by the reader. -/
  | refused (unread : value.reread? = none) (lost : ¬ Kept floats)
  /-- The value is read and decodes. -/
  | decoded {read : Json} {result : α} (isRead : value.reread? = some read)
      (isResult : decode read = .ok result) (same : result = record ↔ Kept floats)

section Rereads

variable {decode : Decoder α} {value : Json} {record : α} {floats : List Float}

theorem Rereads.map_decode_iff (rereads : Rereads decode value record floats) :
    value.reread?.map decode = some (.ok record) ↔ Kept floats := by
  cases rereads with
  | refused unread lost => simp [unread, lost]
  | decoded isRead isResult same => simp [isRead, isResult, same]

theorem rereads_of_eq (isReread : value.reread? = some value)
    (isResult : decode value = .ok record) : Rereads decode value record [] :=
  .decoded isReread isResult (by simp)

/-- A part of a value that decodes on its own carries the numbers of the whole. -/
theorem Rereads.extend {decodePart : Decoder β} {part : Json} {content : β}
    (rereads : Rereads decodePart part content floats) (wrap : Json → Json)
    (isReread : value.reread? = part.reread?.bind fun read => some (wrap read))
    (builds : ∀ read result, part.reread? = some read → decodePart read = .ok result →
      ∃ whole, decode (wrap read) = .ok whole ∧ (whole = record ↔ result = content)) :
    Rereads decode value record floats := by
  cases rereads with
  | refused unread lost =>
      apply Rereads.refused
      · rw [isReread, unread]
        rfl
      · exact lost
  | decoded isRead isPart samePart =>
      obtain ⟨whole, isWhole, same⟩ := builds _ _ isRead isPart
      apply Rereads.decoded
      · rw [isReread, isRead]
        rfl
      · exact isWhole
      · rw [same, samePart]

/-- Two parts that decode on their own carry the numbers of the whole. -/
theorem Rereads.extend_two {decodeFirst : Decoder β} {decodeSecond : Decoder γ}
    {first second : Json} {content : β} {others : γ} {firstFloats secondFloats : List Float}
    (rereadsFirst : Rereads decodeFirst first content firstFloats)
    (rereadsSecond : Rereads decodeSecond second others secondFloats)
    (wrap : Json → Json → Json) (build : β → γ → α)
    (isReread : value.reread? =
      first.reread?.bind fun first => second.reread?.bind fun second => some (wrap first second))
    (isResult : ∀ readFirst readSecond resultFirst resultSecond,
      decodeFirst readFirst = .ok resultFirst → decodeSecond readSecond = .ok resultSecond →
        decode (wrap readFirst readSecond) = .ok (build resultFirst resultSecond))
    (same : ∀ resultFirst resultSecond, build resultFirst resultSecond = record ↔
      resultFirst = content ∧ resultSecond = others) :
    Rereads decode value record (firstFloats ++ secondFloats) := by
  cases rereadsFirst with
  | refused unread lost =>
      apply Rereads.refused
      · rw [isReread, unread]
        rfl
      · simp [lost]
  | decoded isRead isFirst sameFirst =>
      cases rereadsSecond with
      | refused unread lost =>
          apply Rereads.refused
          · rw [isReread, isRead, unread]
            rfl
          · simp [lost]
      | decoded isReadSecond isSecond sameSecond =>
          apply Rereads.decoded
          · rw [isReread, isRead, isReadSecond]
            rfl
          · exact isResult _ _ _ _ isFirst isSecond
          · rw [same, sameFirst, sameSecond, kept_append]

/-- A floating-point number is never read as an integer. -/
theorem exists_float_of_reread? {number : Float} {read : Json}
    (isRead : (float number).reread? = some read) : ∃ result, read = .float result := by
  obtain ⟨numeral, proper, isNotation, isFloat⟩ := Reader.Numeral.exists_exactChars number
  rw [reread?, Reader.parse?_exact proper isNotation] at isRead
  exact Reader.Numeral.value?_of_isFloat isFloat isRead

theorem rereads_float (number : Float) :
    Rereads Decoder.number (.float number) number [number] := by
  cases isRead : (float number).reread? with
  | none =>
      apply Rereads.refused isRead
      rw [reread?] at isRead
      simp [Kept, isRead]
  | some read =>
      obtain ⟨result, rfl⟩ := exists_float_of_reread? isRead
      have isResult : Decoder.number (.float result) = .ok result := rfl
      apply Rereads.decoded isRead isResult
      rw [reread?] at isRead
      simp [Kept, isRead]

theorem rereads_optional_number (number : Option Float)
    (finite : ∀ content ∈ number, content.isFinite = true) :
    Rereads (Decoder.optional Decoder.number) (ofOption .number number) number number.toList := by
  cases number with
  | none => exact rereads_of_eq rfl rfl
  | some content =>
      rw [ofOption, number_of_isFinite (finite content rfl)]
      apply (rereads_float content).extend id
      · simp
      · intro read result _ isNumber
        have notNull : read ≠ .null := by
          rintro rfl
          cases isNumber
        refine ⟨some result, ?_, by simp⟩
        rw [id, Decoder.optional_of_ne_null notNull, isNumber]
        rfl

/-- An item put in front of an array. -/
def prepend (item : Json) : Json → Json
  | .array items => .array (item :: items)
  | other => other

theorem rereads_list (encode : α → Json) {floats : α → List Float} {records : List α}
    (rereads : ∀ record ∈ records, Rereads decode (encode record) record (floats record)) :
    Rereads (Decoder.list decode) (.array (records.map encode)) records
      (records.flatMap floats) := by
  induction records with
  | nil => exact rereads_of_eq rfl rfl
  | cons first rest ih =>
      rw [List.forall_mem_cons] at rereads
      apply rereads.1.extend_two (ih rereads.2) prepend List.cons
      · rw [List.map_cons, reread?, reread?, rereadItems?]
        cases (encode first).reread? with
        | none => rfl
        | some read =>
            cases rereadItems? (rest.map encode) with
            | none => rfl
            | some reads => rfl
      · intro readFirst readSecond resultFirst resultSecond isFirst isSecond
        cases readSecond with
        | array items =>
            change items.mapM decode = .ok resultSecond at isSecond
            change (readFirst :: items).mapM decode = _
            rw [List.mapM_cons, isFirst, isSecond]
            rfl
        | _ => cases isSecond
      · simp

end Rereads

/-- A regular value is read back from its text as far as it is read back after being reread. -/
theorem map_decode_parse?_iff {decode : Decoder α} {value : Json} {record : α}
    {floats : List Float} (regular : value.IsRegular)
    (rereads : Rereads decode value record floats) :
    (parse? value.render).map decode = some (.ok record) ↔ Kept floats := by
  rw [parse?_render regular]
  exact rereads.map_decode_iff

end QueryImpact.Json
