import Mathlib
import QueryImpact.Json.Printer
import QueryImpact.Proofs.Json.Numeral
import QueryImpact.Proofs.OrderedMap

/-!
# Reading written values

A value that is written and read again is the same value, but for its floating-point numbers: each
of them becomes what its own notation is read as.  The members of an object have to be listed by
increasing name, which is how the reader lists them.
-/

namespace QueryImpact.Json

mutual

/-- The value in which every floating-point number is what its own notation is read as. -/
def reread? : Json → Option Json
  | null => some null
  | bool value => some (bool value)
  | integer value => some (integer value)
  | float value => parse? (Decimal.exact value)
  | string value => some (string value)
  | array items => (rereadItems? items).map array
  | object members => (rereadMembers? members).map object

/-- The items of an array, each one reread. -/
def rereadItems? : List Json → Option (List Json)
  | [] => some []
  | item :: rest => do
      let item ← item.reread?
      let rest ← rereadItems? rest
      pure (item :: rest)

/-- The members of an object, each one reread. -/
def rereadMembers? : List (String × Json) → Option (List (String × Json))
  | [] => some []
  | (name, value) :: rest => do
      let value ← value.reread?
      let rest ← rereadMembers? rest
      pure ((name, value) :: rest)

end

/-- Integers have at most 64 bits, and the members of an object are listed by increasing name. -/
inductive IsRegular : Json → Prop
  | null : IsRegular null
  | bool (value : Bool) : IsRegular (bool value)
  | integer {value : Int} (isWord : Reader.IsWord value) : IsRegular (integer value)
  | float (value : Float) : IsRegular (float value)
  | string (value : String) : IsRegular (string value)
  | array {items : List Json} (items_regular : ∀ item ∈ items, IsRegular item) :
      IsRegular (array items)
  | object {members : List (String × Json)}
      (increasing : members.Pairwise fun first second => compare first.1 second.1 = .lt)
      (members_regular : ∀ member ∈ members, IsRegular member.2) : IsRegular (object members)

theorem IsRegular.object_of_names {members : List (String × Json)}
    (increasing : (members.map Prod.fst).Pairwise fun first second => compare first second = .lt)
    (members_regular : ∀ member ∈ members, IsRegular member.2) : IsRegular (.object members) :=
  .object (List.pairwise_map.mp increasing) members_regular

/-- A value that may be absent is regular when every value that is there is. -/
theorem isRegular_ofOption {α : Type} {encode : α → Json} {value : Option α}
    (regular : ∀ content ∈ value, IsRegular (encode content)) :
    IsRegular (ofOption encode value) := by
  cases value with
  | none => exact .null
  | some content => exact regular content rfl

theorem isRegular_number (value : Float) : IsRegular (number value) := by
  unfold number
  split
  · exact .float value
  · exact .null

theorem reread?_ofOption {α : Type} (encode : α → Json) (value : Option α)
    (isReread : ∀ content ∈ value, (encode content).reread? = some (encode content)) :
    (ofOption encode value).reread? = some (ofOption encode value) := by
  cases value with
  | none => rfl
  | some content => exact isReread content rfl

namespace Reader

/-! ## Texts -/

theorem length_le_flatMap_escapedChar (chars : List Char) :
    chars.length ≤ (chars.flatMap escapedChar).length := by
  induction chars with
  | nil => simp
  | cons first rest ih =>
      have nonempty : 1 ≤ (escapedChar first).length := by
        unfold escapedChar
        split
        · exact Nat.le_succ 1
        · split <;> simp
      simp only [List.length_cons, List.flatMap_cons, List.length_append]
      omega

/-- The letter of a short escape stands for the character that it is written for. -/
theorem simpleEscape?_of_lookup {c letter : Char} (short : shortEscapes.lookup c = some letter) :
    simpleEscape? letter = some c ∧ letter ≠ 'u' := by
  obtain ⟨before, after, split, -⟩ := List.lookup_eq_some_iff.mp short
  have listed : (c, letter) ∈ shortEscapes := by
    rw [split]
    exact List.mem_append_right before List.mem_cons_self
  simp only [shortEscapes, List.mem_cons, Prod.mk.injEq, List.not_mem_nil, or_false] at listed
  rcases listed with ⟨rfl, rfl⟩ | ⟨rfl, rfl⟩ | ⟨rfl, rfl⟩ | ⟨rfl, rfl⟩ | ⟨rfl, rfl⟩ | ⟨rfl, rfl⟩ |
    ⟨rfl, rfl⟩
  all_goals exact ⟨rfl, by decide⟩

/-- A character without a short escape is neither a quote nor a backslash. -/
theorem ne_quote_of_lookup {c : Char} (long : shortEscapes.lookup c = none) :
    c ≠ '"' ∧ c ≠ '\\' := by
  constructor
  · rintro rfl
    contradiction
  · rintro rfl
    contradiction

/-- The escape of a control character has two zeros and two hexadecimal digits. -/
theorem escapedChar_digits : ∀ code < 32,
    List.replicate (4 - (Nat.toDigits 16 code).length) '0' ++ Nat.toDigits 16 code =
      ['0', '0', Nat.digitChar (code / 16), Nat.digitChar (code % 16)] := by
  decide

theorem hexDigit?_digitChar : ∀ value < 16, hexDigit? (Nat.digitChar value) = some value := by
  decide

theorem unicodeEscape?_escapedChar {c : Char} (control : c.toNat < 32) (rest : List Char) :
    unicodeEscape? ('0' :: '0' :: Nat.digitChar (c.toNat / 16) :: Nat.digitChar (c.toNat % 16) ::
      rest) = some (c, rest) := by
  have zero : hexDigit? '0' = some 0 := by decide
  have high := hexDigit?_digitChar (c.toNat / 16) (by omega)
  have low := hexDigit?_digitChar (c.toNat % 16) (by omega)
  have value : ((0 * 16 + 0) * 16 + c.toNat / 16) * 16 + c.toNat % 16 = c.toNat := by omega
  have unit : hexUnit? ('0' :: '0' :: Nat.digitChar (c.toNat / 16) ::
      Nat.digitChar (c.toNat % 16) :: rest) = some (c.toNat, rest) := by
    simp only [hexUnit?, zero, high, low, Option.bind_eq_bind, Option.bind_some, value]
    rfl
  have notHigh : ¬ 0xd800 ≤ c.toNat := by omega
  have notLow : ¬ 0xdc00 ≤ c.toNat := by omega
  simp [unicodeEscape?, unit, notHigh, notLow, Char.ofNat_toNat]

/-- One step reads one escaped character. -/
theorem readText_escapedChar (steps : Nat) (taken : List Char) (c : Char) (rest : List Char) :
    readText (steps + 1) taken (escapedChar c ++ rest) = readText steps (c :: taken) rest := by
  unfold escapedChar
  split
  · rename_i letter short
    obtain ⟨stands, notCode⟩ := simpleEscape?_of_lookup short
    simp [readText, stands]
  · rename_i long
    have plain := ne_quote_of_lookup long
    split
    · rename_i control
      simp only [List.append_assoc, escapedChar_digits c.toNat control]
      simp [readText, unicodeEscape?_escapedChar control rest]
    · rename_i printable
      simp [readText, plain, printable]

/-- A text is read up to its closing quote. -/
theorem readText_escaped (chars taken rest : List Char) {steps : Nat}
    (enough : chars.length < steps) :
    readText steps taken (chars.flatMap escapedChar ++ '"' :: rest) =
      some (String.ofList (taken.reverse ++ chars), rest) := by
  induction chars generalizing steps taken with
  | nil =>
      obtain ⟨fewer, rfl⟩ := Nat.exists_eq_succ_of_ne_zero (Nat.ne_of_gt enough)
      simp [readText]
  | cons first others ih =>
      obtain ⟨fewer, rfl⟩ := Nat.exists_eq_succ_of_ne_zero (Nat.ne_of_gt (Nat.zero_lt_of_lt enough))
      rw [List.flatMap_cons, List.append_assoc, readText_escapedChar,
        ih (first :: taken) (Nat.lt_of_succ_lt_succ enough)]
      simp

theorem toList_renderText (text : String) (rest : List Char) :
    (renderText text).toList ++ rest =
      '"' :: (text.toList.flatMap escapedChar ++ '"' :: rest) := by
  simp [renderText]

theorem readText_renderText (text : String) (rest : List Char) :
    readText ((text.toList.flatMap escapedChar ++ '"' :: rest).length + 1) []
      (text.toList.flatMap escapedChar ++ '"' :: rest) = some (text, rest) := by
  rw [readText_escaped]
  · simp
  · have := length_le_flatMap_escapedChar text.toList
    simp only [List.length_append, List.length_cons]
    omega

/-! ## Values -/

/-- The reader takes a value from its text when it has enough steps, and leaves what follows. -/
def Takes (value : Json) : Prop :=
  ∀ (steps : Nat) (rest : List Char), 2 * value.render.length ≤ steps + 1 → EndsNumber rest →
    readValue (steps + 1) (value.render.toList ++ rest) =
      value.reread?.map fun read => (read, rest)

theorem Numeral.exists_head {numeral : Numeral} (proper : numeral.IsProper) :
    ∃ c more, numeral.chars = c :: more ∧ (c = '-' ∨ c.isDigit = true) := by
  unfold chars
  cases numeral.negative with
  | true => exact ⟨'-', _, rfl, Or.inl rfl⟩
  | false =>
      obtain ⟨first, others, isWhole⟩ := List.exists_cons_of_ne_nil proper.whole_ne_nil
      refine ⟨first, others ++ (numeral.fractionChars ++ numeral.exponentChars), by simp [isWhole],
        Or.inr ?_⟩
      exact proper.whole_digits first (by simp [isWhole])

theorem readValue_chars {numeral : Numeral} (proper : numeral.IsProper) (rest : List Char)
    (ends : EndsNumber rest) (steps : Nat) :
    readValue (steps + 1) (numeral.chars ++ rest) =
      numeral.value?.map fun number => (number, rest) := by
  rw [← Numeral.readNumber_chars proper ends]
  obtain ⟨c, more, isChars, isHead⟩ := Numeral.exists_head proper
  have other : c ≠ ' ' ∧ c ≠ '\n' ∧ c ≠ '\r' ∧ c ≠ '\t' ∧ c ≠ '"' ∧ c ≠ '[' ∧ c ≠ '{' ∧ c ≠ 'n' ∧
      c ≠ 't' ∧ c ≠ 'f' := by
    refine ⟨?_, ?_, ?_, ?_, ?_, ?_, ?_, ?_, ?_, ?_⟩ <;>
    · rintro rfl
      revert isHead
      decide
  rw [isChars]
  simp [readValue, skipBlanks, isBlank, other]

/-- The notation of a floating-point number is read as a numeral. -/
theorem parse?_exact {numeral : Numeral} {number : Float} (proper : numeral.IsProper)
    (isNotation : numeral.chars = Decimal.exactChars number) :
    parse? (Decimal.exact number) = numeral.value? := by
  have read := readValue_chars proper [] (by simp [EndsNumber])
    (2 * (Decimal.exactChars number).length + 1)
  rw [isNotation, List.append_nil] at read
  simp only [parse?, Decimal.exact, String.toList_ofList]
  rw [read]
  cases numeral.value? with
  | none => rfl
  | some value => rfl

theorem takes_null : Takes .null := by
  intro steps rest _ _
  simp [render, reread?, readValue, skipBlanks, isBlank, afterWord]

theorem takes_bool (value : Bool) : Takes (.bool value) := by
  intro steps rest _ _
  cases value with
  | true => simp [render, reread?, readValue, skipBlanks, isBlank, afterWord]
  | false => simp [render, reread?, readValue, skipBlanks, isBlank, afterWord]

theorem takes_integer {value : Int} (isWord : IsWord value) : Takes (.integer value) := by
  intro steps rest _ ends
  have read := readValue_chars (Numeral.isProper_ofInt value) rest ends steps
  rwa [Numeral.chars_ofInt, Numeral.value?_ofInt isWord] at read

theorem takes_float (number : Float) : Takes (.float number) := by
  intro steps rest _ ends
  obtain ⟨numeral, proper, isNotation, _⟩ := Numeral.exists_exactChars number
  have text : (render (.float number)).toList = numeral.chars := by
    simp [render, Decimal.exact, isNotation]
  rw [text, reread?, parse?_exact proper isNotation]
  exact readValue_chars proper rest ends steps

theorem takes_string (value : String) : Takes (.string value) := by
  intro steps rest _ _
  have read := readText_renderText value rest
  rw [render, toList_renderText, reread?]
  generalize value.toList.flatMap escapedChar ++ '"' :: rest = tail at read ⊢
  simp [readValue, skipBlanks, isBlank, read]

/-- The text of a value starts with a character that is neither blank nor a closing bracket. -/
theorem exists_head_render (value : Json) :
    ∃ c more, value.render.toList = c :: more ∧ isBlank c = false ∧ c ≠ ']' := by
  have ofNumeral : ∀ {numeral : Numeral}, numeral.IsProper →
      ∃ c more, numeral.chars = c :: more ∧ isBlank c = false ∧ c ≠ ']' := by
    intro numeral proper
    obtain ⟨c, more, isChars, isHead⟩ := Numeral.exists_head proper
    refine ⟨c, more, isChars, ?_, ?_⟩
    · rcases isHead with rfl | isDigit
      · decide
      · simp only [isBlank, Bool.or_eq_false_iff, beq_eq_false_iff_ne]
        refine ⟨⟨⟨?_, ?_⟩, ?_⟩, ?_⟩ <;>
        · rintro rfl
          revert isDigit
          decide
    · rintro rfl
      revert isHead
      decide
  cases value with
  | null => exact ⟨'n', _, rfl, by decide, by decide⟩
  | bool value => cases value with
    | true => exact ⟨'t', _, rfl, by decide, by decide⟩
    | false => exact ⟨'f', _, rfl, by decide, by decide⟩
  | integer value =>
      rw [render, ← Numeral.chars_ofInt]
      exact ofNumeral (Numeral.isProper_ofInt value)
  | float number =>
      obtain ⟨numeral, proper, isNotation, _⟩ := Numeral.exists_exactChars number
      rw [render, Decimal.exact, String.toList_ofList, ← isNotation]
      exact ofNumeral proper
  | string value =>
      refine ⟨'"', (value.toList.flatMap escapedChar ++ ['"']), ?_, by decide, by decide⟩
      simp [render, renderText]
  | array items =>
      refine ⟨'[', (renderItems items).toList ++ [']'], ?_, by decide, by decide⟩
      simp [render]
  | object members =>
      refine ⟨'{', (renderMembers members).toList ++ ['}'], ?_, by decide, by decide⟩
      simp [render]

theorem length_render_pos (value : Json) : 0 < value.render.length := by
  obtain ⟨c, more, isText, _⟩ := exists_head_render value
  rw [← String.length_toList, isText]
  simp

/-- The items of an array are read up to its closing bracket. -/
theorem readItems_render {items : List Json} (nonempty : items ≠ [])
    (takes : ∀ item ∈ items, Takes item) (rest : List Char) (steps : Nat)
    (enough : 2 * (renderItems items).length + 1 ≤ steps) :
    readItems steps ((renderItems items).toList ++ ']' :: rest) =
      (rereadItems? items).map fun read => (read, rest) := by
  induction items generalizing steps with
  | nil => exact absurd rfl nonempty
  | cons item others ih =>
      rw [List.forall_mem_cons] at takes
      have positive := length_render_pos item
      cases others with
      | nil =>
          rw [renderItems] at enough ⊢
          obtain ⟨fewer, rfl⟩ : ∃ fewer, steps = fewer + 1 + 1 := ⟨steps - 2, by omega⟩
          rw [readItems, takes.1 fewer (']' :: rest) (by omega) (by simp [EndsNumber]),
            rereadItems?, rereadItems?]
          cases item.reread? with
          | none => rfl
          | some read => rfl
      | cons next more =>
          have text : (renderItems (item :: next :: more)).toList ++ ']' :: rest =
              item.render.toList ++
                ',' :: ((renderItems (next :: more)).toList ++ ']' :: rest) := by
            simp [renderItems]
          have length : (renderItems (item :: next :: more)).length =
              item.render.length + 1 + (renderItems (next :: more)).length := by
            have count := congrArg List.length text
            simp only [List.length_append, List.length_cons, String.length_toList] at count
            omega
          obtain ⟨fewer, rfl⟩ : ∃ fewer, steps = fewer + 1 + 1 := ⟨steps - 2, by omega⟩
          have later := ih (by simp) takes.2 (fewer + 1) (by omega)
          rw [text, readItems, takes.1 fewer _ (by omega) (by simp [EndsNumber]), rereadItems?]
          cases item.reread? with
          | none => rfl
          | some read =>
              simp only [Option.map_some, Option.bind_eq_bind, Option.bind_some]
              change (readItems (fewer + 1) _).bind _ = _
              rw [later]
              cases rereadItems? (next :: more) with
              | none => rfl
              | some reads => rfl

theorem exists_head_renderItems (item : Json) (others : List Json) :
    ∃ c more, (renderItems (item :: others)).toList = c :: more ∧ isBlank c = false ∧ c ≠ ']' := by
  obtain ⟨c, more, isText, isHead⟩ := exists_head_render item
  cases others with
  | nil => exact ⟨c, more, by rw [renderItems, isText], isHead⟩
  | cons next rest =>
      exact ⟨c, more ++ ',' :: (renderItems (next :: rest)).toList, by simp [renderItems, isText],
        isHead⟩

theorem takes_array {items : List Json} (takes : ∀ item ∈ items, Takes item) :
    Takes (.array items) := by
  intro steps rest enough _
  cases items with
  | nil => simp [render, renderItems, reread?, rereadItems?, readValue, skipBlanks, isBlank]
  | cons item others =>
      have text : (render (.array (item :: others))).toList ++ rest =
          '[' :: ((renderItems (item :: others)).toList ++ ']' :: rest) := by
        simp [render]
      have length : (render (.array (item :: others))).length =
          (renderItems (item :: others)).length + 2 := by
        have count := congrArg List.length text
        simp only [List.length_append, List.length_cons, String.length_toList] at count
        omega
      have read := readItems_render (List.cons_ne_nil item others) takes rest steps
        (by omega)
      obtain ⟨c, more, isText, notBlank, notEnd⟩ := exists_head_renderItems item others
      rw [isText, List.cons_append] at read text
      have opened : readValue (steps + 1) ('[' :: c :: (more ++ ']' :: rest)) =
          (readItems steps (c :: (more ++ ']' :: rest))).bind fun read =>
            some (array read.1, read.2) := by
        have notBlankOpening : isBlank '[' = false := by decide
        simp [readValue, skipBlanks, notBlankOpening, notBlank, notEnd]
      rw [text, opened, read, reread?]
      cases rereadItems? (item :: others) with
      | none => rfl
      | some reads => rfl

/-- A member is read by its name, a colon and its value; a brace ends the object, and after a comma
the next member follows. -/
theorem readMembers_renderText (name : String) {tail rest : List Char} {steps : Nat}
    {value? : Option Json} (read : readValue steps tail = value?.map fun value => (value, rest)) :
    (∀ more, rest = '}' :: more →
      readMembers (steps + 1) ((renderText name).toList ++ ':' :: tail) =
        value?.map fun value => ([(name, value)], more)) ∧
    ∀ more, rest = ',' :: more →
      readMembers (steps + 1) ((renderText name).toList ++ ':' :: tail) =
        value?.bind fun value => (readMembers steps more).map fun read =>
          ((name, value) :: read.1, read.2) := by
  have readName := readText_renderText name (':' :: tail)
  rw [toList_renderText]
  generalize name.toList.flatMap escapedChar ++ '"' :: ':' :: tail = text at readName ⊢
  have skipQuote : skipBlanks ('"' :: text) = '"' :: text := by simp [skipBlanks, isBlank]
  have skipColon : skipBlanks (':' :: tail) = ':' :: tail := by simp [skipBlanks, isBlank]
  simp only [readMembers, skipQuote, readName, Option.bind_eq_bind, Option.bind_some, skipColon,
    read]
  constructor
  · rintro more rfl
    cases value? with
    | none => rfl
    | some value => rfl
  · rintro more rfl
    cases value? with
    | none => rfl
    | some value => exact Option.map_eq_bind.symm

theorem exists_head_renderMembers (member : String × Json) (others : List (String × Json)) :
    ∃ more, (renderMembers (member :: others)).toList = '"' :: more := by
  obtain ⟨name, value⟩ := member
  obtain ⟨more, isName⟩ : ∃ more, (renderText name).toList = '"' :: more :=
    ⟨name.toList.flatMap escapedChar ++ ['"'], by simp [renderText]⟩
  cases others with
  | nil => exact ⟨more ++ ':' :: value.render.toList, by simp [renderMembers, isName]⟩
  | cons next rest =>
      exact ⟨more ++ ':' :: (value.render.toList ++ ',' :: (renderMembers (next :: rest)).toList),
        by simp [renderMembers, isName]⟩

/-- The members of an object are read up to its closing brace. -/
theorem readMembers_render {members : List (String × Json)} (nonempty : members ≠ [])
    (takes : ∀ member ∈ members, Takes member.2) (rest : List Char) (steps : Nat)
    (enough : 2 * (renderMembers members).length + 1 ≤ steps) :
    readMembers steps ((renderMembers members).toList ++ '}' :: rest) =
      (rereadMembers? members).map fun read => (read, rest) := by
  induction members generalizing steps with
  | nil => exact absurd rfl nonempty
  | cons member others ih =>
      rw [List.forall_mem_cons] at takes
      obtain ⟨name, value⟩ := member
      have positive := length_render_pos value
      cases others with
      | nil =>
          have text : (renderMembers [(name, value)]).toList ++ '}' :: rest =
              (renderText name).toList ++ ':' :: (value.render.toList ++ '}' :: rest) := by
            simp [renderMembers]
          have length : (renderMembers [(name, value)]).length =
              (renderText name).length + 1 + value.render.length := by
            have count := congrArg List.length text
            simp only [List.length_append, List.length_cons, String.length_toList] at count
            omega
          obtain ⟨fewer, rfl⟩ : ∃ fewer, steps = fewer + 1 + 1 := ⟨steps - 2, by omega⟩
          have read := takes.1 fewer ('}' :: rest) (by change 2 * value.render.length ≤ _; omega)
            (by simp [EndsNumber])
          rw [text, (readMembers_renderText name read).1 rest rfl, rereadMembers?, rereadMembers?]
          cases value.reread? with
          | none => rfl
          | some read => rfl
      | cons next more =>
          have text : (renderMembers ((name, value) :: next :: more)).toList ++ '}' :: rest =
              (renderText name).toList ++ ':' :: (value.render.toList ++
                ',' :: ((renderMembers (next :: more)).toList ++ '}' :: rest)) := by
            simp [renderMembers]
          have length : (renderMembers ((name, value) :: next :: more)).length =
              (renderText name).length + 1 + value.render.length + 1 +
                (renderMembers (next :: more)).length := by
            have count := congrArg List.length text
            simp only [List.length_append, List.length_cons, String.length_toList] at count
            omega
          obtain ⟨fewer, rfl⟩ : ∃ fewer, steps = fewer + 1 + 1 := ⟨steps - 2, by omega⟩
          have later := ih (by simp) takes.2 (fewer + 1) (by omega)
          have read := takes.1 fewer (',' :: ((renderMembers (next :: more)).toList ++ '}' :: rest))
            (by change 2 * value.render.length ≤ _; omega) (by simp [EndsNumber])
          rw [text, (readMembers_renderText name read).2 _ rfl, rereadMembers?, later]
          cases value.reread? with
          | none => rfl
          | some read =>
              cases rereadMembers? (next :: more) with
              | none => rfl
              | some reads => rfl

theorem rereadMembers?_names {members reads : List (String × Json)}
    (isReread : rereadMembers? members = some reads) :
    reads.map Prod.fst = members.map Prod.fst := by
  induction members generalizing reads with
  | nil =>
      rw [rereadMembers?, Option.some.injEq] at isReread
      rw [← isReread]
  | cons member others ih =>
      simp only [rereadMembers?, Option.bind_eq_bind, Option.bind_eq_some_iff, Option.pure_def,
        Option.some.injEq] at isReread
      obtain ⟨value, _, later, isLater, rfl⟩ := isReread
      simp [ih isLater]

theorem takes_object {members : List (String × Json)}
    (increasing : members.Pairwise fun first second => compare first.1 second.1 = .lt)
    (takes : ∀ member ∈ members, Takes member.2) : Takes (.object members) := by
  intro steps rest enough _
  cases members with
  | nil => simp [render, renderMembers, reread?, rereadMembers?, readValue, skipBlanks, isBlank]
  | cons member others =>
      have text : (render (.object (member :: others))).toList ++ rest =
          '{' :: ((renderMembers (member :: others)).toList ++ '}' :: rest) := by
        simp [render]
      have length : (render (.object (member :: others))).length =
          (renderMembers (member :: others)).length + 2 := by
        have count := congrArg List.length text
        simp only [List.length_append, List.length_cons, String.length_toList] at count
        omega
      have read := readMembers_render (List.cons_ne_nil member others) takes rest steps
        (by omega)
      obtain ⟨more, isText⟩ := exists_head_renderMembers member others
      have opened : readValue (steps + 1) ('{' :: '"' :: (more ++ '}' :: rest)) =
          (readMembers steps ('"' :: (more ++ '}' :: rest))).bind fun read =>
            some (object (OrderedMap.ofList read.1).entries, read.2) := by
        simp [readValue, skipBlanks, isBlank]
      rw [isText, List.cons_append] at read text
      rw [text, opened, read, reread?]
      cases isReread : rereadMembers? (member :: others) with
      | none => rfl
      | some reads =>
          have sorted : reads.Pairwise fun first second => compare first.1 second.1 = .lt := by
            have names : ((member :: others).map Prod.fst).Pairwise (compare · · = .lt) :=
              List.pairwise_map.2 increasing
            rw [← rereadMembers?_names isReread] at names
            exact List.pairwise_map.1 names
          simp [OrderedMap.entries_ofList sorted]

/-- Every regular value is read from its text, its floating-point numbers as their notations
are. -/
theorem takes_of_isRegular {value : Json} (regular : value.IsRegular) : Takes value := by
  induction regular with
  | null => exact takes_null
  | bool value => exact takes_bool value
  | integer isWord => exact takes_integer isWord
  | float number => exact takes_float number
  | string value => exact takes_string value
  | array _ ih => exact takes_array ih
  | object increasing _ ih => exact takes_object increasing ih

end Reader

theorem parse?_render {value : Json} (regular : value.IsRegular) :
    parse? value.render = value.reread? := by
  have read := Reader.takes_of_isRegular regular (2 * value.render.toList.length + 1) []
    (by rw [String.length_toList]; omega) (by simp [Reader.EndsNumber])
  rw [List.append_nil] at read
  simp only [parse?]
  rw [read]
  cases value.reread? with
  | none => rfl
  | some read => rfl

end QueryImpact.Json
