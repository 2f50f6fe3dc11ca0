import CssSelector.Proofs.Json.RoundTrip
import CssSelector.Token.Json

/-!
# Streams, alternatives and spans survive JSON

What is written of a stream of tokens, of alternatives or of a span is read back, and every text
that is read is brought into the one form that is written, `json_roundTrip`.
-/

set_option autoImplicit false

namespace CssSelector

/-- The value of a type that a text spells. -/
def Json.decode? {α : Type} (ofJson? : Json → Option α) (text : String) : Option α :=
  (read? text).bind ofJson?

/-- Offsets have 64 bits. -/
def Token.Fits (token : Token) : Prop := token.offset ≤ maxOffset

/-- Offsets have 64 bits, lines and columns 32. -/
structure Position.Fits (position : Position) : Prop where
  offset : position.offset ≤ maxOffset
  line : position.line ≤ maxColumn
  column : position.column ≤ maxColumn

structure Span.Fits (span : Span) : Prop where
  start : span.start.Fits
  stop : span.stop.Fits

namespace Json

theorem isData_natural_of_le {value : Nat} (bound : value ≤ maxOffset) :
    IsData (natural value) := by
  refine .natural ((Nat.length_toDigits_le_iff (by decide) (by decide)).mpr ?_)
  exact Nat.lt_of_le_of_lt bound (by decide)

theorem natural?_eq_some_iff {bound number : Nat} {value : Json} :
    value.natural? bound = some number ↔ value = natural number ∧ number ≤ bound := by
  cases value <;> simp [natural?]
  constructor
  · rintro ⟨fits, rfl⟩
    exact ⟨rfl, fits⟩
  · rintro ⟨rfl, fits⟩
    exact ⟨fits, rfl⟩

theorem mapM_map {α : Type} {toJson : α → Json} {ofJson? : Json → Option α} {values : List α}
    (back : ∀ value ∈ values, ofJson? (toJson value) = some value) :
    (values.map toJson).mapM ofJson? = some values := by
  induction values with
  | nil => rfl
  | cons value values ih =>
      rw [List.forall_mem_cons] at back
      simp [back.1, ih back.2]

end Json

/-! ## Records and names -/

theorem TokenKind.ofName?_name (kind : TokenKind) : ofName? kind.name = some kind := by
  cases kind <;> decide

theorem TokenKind.ofJson?_toJson (kind : TokenKind) : ofJson? kind.toJson = some kind :=
  kind.ofName?_name

theorem Token.ofJson?_toJson {token : Token} (fits : token.Fits) :
    ofJson? token.toJson = some token := by
  have offset := Json.natural?_eq_some_iff.mpr ⟨rfl, fits⟩
  simp [ofJson?, toJson, Json.fields?, Json.text?, TokenKind.ofJson?_toJson, offset]

theorem Position.ofJson?_toJson {position : Position} (fits : position.Fits) :
    ofJson? position.toJson = some position := by
  have offset := Json.natural?_eq_some_iff.mpr ⟨rfl, fits.offset⟩
  have line := Json.natural?_eq_some_iff.mpr ⟨rfl, fits.line⟩
  have column := Json.natural?_eq_some_iff.mpr ⟨rfl, fits.column⟩
  simp [ofJson?, toJson, Json.fields?, offset, line, column]

theorem Span.ofJson?_toJson {span : Span} (fits : span.Fits) : ofJson? span.toJson = some span := by
  simp [ofJson?, toJson, Json.fields?, Position.ofJson?_toJson fits.start,
    Position.ofJson?_toJson fits.stop]

theorem Expected.ofJson?_toJson (expected : Expected) :
    ofJson? expected.toJson = some expected := by
  have kinds := Json.mapM_map fun kind (_ : kind ∈ expected.kinds) => kind.ofJson?_toJson
  simp [ofJson?, toJson, Json.items?, kinds]

theorem TokenStream.ofJson?_toJson {stream : TokenStream}
    (fits : ∀ token ∈ stream.toList, token.Fits) :
    ofJson? stream.toJson = some (ofList stream.toList) := by
  have tokens := Json.mapM_map fun token member => Token.ofJson?_toJson (fits token member)
  simp [ofJson?, toJson, Json.items?, tokens]

/-! ## What is read fits -/

theorem Json.exists_of_mem_mapM {α : Type} {ofJson? : Json → Option α} {items : List Json}
    {values : List α} (read : items.mapM ofJson? = some values) :
    ∀ value ∈ values, ∃ item, ofJson? item = some value := by
  induction items generalizing values with
  | nil =>
      cases read
      exact fun _ => nofun
  | cons item items ih =>
      rw [List.mapM_cons] at read
      obtain ⟨first, isFirst, read⟩ := Option.bind_eq_some_iff.mp read
      obtain ⟨later, isLater, read⟩ := Option.bind_eq_some_iff.mp read
      cases read
      rw [List.forall_mem_cons]
      exact ⟨⟨item, isFirst⟩, ih isLater⟩

theorem Token.fits_of_ofJson? {value : Json} {token : Token} (read : ofJson? value = some token) :
    token.Fits := by
  obtain ⟨fields, -, read⟩ := Option.bind_eq_some_iff.mp read
  split at read
  · obtain ⟨kind, -, read⟩ := Option.bind_eq_some_iff.mp read
    obtain ⟨offset, isOffset, read⟩ := Option.bind_eq_some_iff.mp read
    obtain ⟨text, -, read⟩ := Option.bind_eq_some_iff.mp read
    cases read
    exact (Json.natural?_eq_some_iff.mp isOffset).2
  · cases read

theorem Position.fits_of_ofJson? {value : Json} {position : Position}
    (read : ofJson? value = some position) : position.Fits := by
  obtain ⟨fields, -, read⟩ := Option.bind_eq_some_iff.mp read
  split at read
  · obtain ⟨offset, isOffset, read⟩ := Option.bind_eq_some_iff.mp read
    obtain ⟨line, isLine, read⟩ := Option.bind_eq_some_iff.mp read
    obtain ⟨column, isColumn, read⟩ := Option.bind_eq_some_iff.mp read
    cases read
    exact ⟨(Json.natural?_eq_some_iff.mp isOffset).2, (Json.natural?_eq_some_iff.mp isLine).2,
      (Json.natural?_eq_some_iff.mp isColumn).2⟩
  · cases read

theorem Span.fits_of_ofJson? {value : Json} {span : Span} (read : ofJson? value = some span) :
    span.Fits := by
  obtain ⟨fields, -, read⟩ := Option.bind_eq_some_iff.mp read
  split at read
  · obtain ⟨start, isStart, read⟩ := Option.bind_eq_some_iff.mp read
    obtain ⟨stop, isStop, read⟩ := Option.bind_eq_some_iff.mp read
    cases read
    exact ⟨Position.fits_of_ofJson? isStart, Position.fits_of_ofJson? isStop⟩
  · cases read

theorem TokenStream.fits_of_ofJson? {value : Json} {stream : TokenStream}
    (read : ofJson? value = some stream) : ∀ token ∈ stream.toList, token.Fits := by
  obtain ⟨items, -, read⟩ := Option.bind_eq_some_iff.mp read
  obtain ⟨tokens, isTokens, read⟩ := Option.bind_eq_some_iff.mp read
  cases read
  intro token member
  rw [toList_ofList] at member
  obtain ⟨item, isToken⟩ := Json.exists_of_mem_mapM isTokens token member
  exact Token.fits_of_ofJson? isToken

/-! ## What is written is data -/

theorem Token.isData_toJson {token : Token} (fits : token.Fits) : token.toJson.IsData := by
  refine .object ?_
  simp only [List.forall_mem_cons, List.not_mem_nil, false_implies, implies_true, and_true]
  exact ⟨.text, Json.isData_natural_of_le fits, .text⟩

theorem Position.isData_toJson {position : Position} (fits : position.Fits) :
    position.toJson.IsData := by
  have small : maxColumn ≤ maxOffset := by decide
  refine .object ?_
  simp only [List.forall_mem_cons, List.not_mem_nil, false_implies, implies_true, and_true]
  exact ⟨Json.isData_natural_of_le fits.offset,
    Json.isData_natural_of_le (Nat.le_trans fits.line small),
    Json.isData_natural_of_le (Nat.le_trans fits.column small)⟩

theorem Span.isData_toJson {span : Span} (fits : span.Fits) : span.toJson.IsData := by
  refine .object ?_
  simp only [List.forall_mem_cons, List.not_mem_nil, false_implies, implies_true, and_true]
  exact ⟨Position.isData_toJson fits.start, Position.isData_toJson fits.stop⟩

theorem Expected.isData_toJson (expected : Expected) : expected.toJson.IsData := by
  refine .array ?_
  rw [List.forall_mem_map]
  exact fun _ _ => .text

theorem TokenStream.isData_toJson {stream : TokenStream}
    (fits : ∀ token ∈ stream.toList, token.Fits) : stream.toJson.IsData := by
  refine .array ?_
  rw [List.forall_mem_map]
  exact fun token member => Token.isData_toJson (fits token member)

/-! ## Round trips -/

theorem Json.decode?_compact {α : Type} {ofJson? : Json → Option α} {value : Json}
    (data : IsData value) : decode? ofJson? value.compact = ofJson? value := by
  rw [decode?, read?_compact data]
  rfl

theorem Json.exists_ofJson?_of_decode? {α : Type} {ofJson? : Json → Option α} {text : String}
    {value : α} (read : decode? ofJson? text = some value) : ∃ json, ofJson? json = some value := by
  obtain ⟨json, -, read⟩ := Option.bind_eq_some_iff.mp read
  exact ⟨json, read⟩

theorem TokenStream.decode?_compact {stream : TokenStream}
    (fits : ∀ token ∈ stream.toList, token.Fits) :
    Json.decode? ofJson? stream.toJson.compact = some (ofList stream.toList) := by
  rw [Json.decode?_compact (isData_toJson fits), ofJson?_toJson fits]

theorem Expected.decode?_compact (expected : Expected) :
    Json.decode? ofJson? expected.toJson.compact = some expected := by
  rw [Json.decode?_compact expected.isData_toJson, expected.ofJson?_toJson]

theorem Span.decode?_compact {span : Span} (fits : span.Fits) :
    Json.decode? ofJson? span.toJson.compact = some span := by
  rw [Json.decode?_compact (isData_toJson fits), ofJson?_toJson fits]

/-- Reading inverts writing for streams of tokens, alternatives and spans. A stream is given back
with the tokens that were left in it. Every text that is read as one of these has a compact form,
which is read as well and is its own compact form. -/
theorem json_roundTrip :
    ((∀ stream : TokenStream, (∀ token ∈ stream.toList, token.Fits) →
        ∃ again, Json.decode? TokenStream.ofJson? stream.toJson.compact = some again ∧
          again.toList = stream.toList) ∧
      (∀ expected : Expected,
        Json.decode? Expected.ofJson? expected.toJson.compact = some expected) ∧
      ∀ span : Span, span.Fits →
        Json.decode? Span.ofJson? span.toJson.compact = some span) ∧
      (∀ text stream, Json.decode? TokenStream.ofJson? text = some stream →
        ∃ again, Json.decode? TokenStream.ofJson? stream.toJson.compact = some again ∧
          again.toJson.compact = stream.toJson.compact) ∧
      (∀ text expected, Json.decode? Expected.ofJson? text = some expected →
        ∃ again, Json.decode? Expected.ofJson? expected.toJson.compact = some again ∧
          again.toJson.compact = expected.toJson.compact) ∧
      ∀ text span, Json.decode? Span.ofJson? text = some span →
        ∃ again, Json.decode? Span.ofJson? span.toJson.compact = some again ∧
          again.toJson.compact = span.toJson.compact := by
  refine ⟨⟨?_, Expected.decode?_compact, fun span => Span.decode?_compact⟩, ?_, ?_, ?_⟩
  · intro stream fits
    exact ⟨_, TokenStream.decode?_compact fits, TokenStream.toList_ofList _⟩
  · intro text stream read
    obtain ⟨json, isStream⟩ := Json.exists_ofJson?_of_decode? read
    refine ⟨_, TokenStream.decode?_compact (TokenStream.fits_of_ofJson? isStream), ?_⟩
    rw [TokenStream.toJson, TokenStream.toList_ofList, ← TokenStream.toJson]
  · intro text expected read
    exact ⟨_, expected.decode?_compact, rfl⟩
  · intro text span read
    obtain ⟨json, isSpan⟩ := Json.exists_ofJson?_of_decode? read
    exact ⟨_, Span.decode?_compact (Span.fits_of_ofJson? isSpan), rfl⟩

/-- The largest offset, and a text with a quote, a backslash, a control character and a letter of
two bytes. -/
theorem json_roundTrip_of_escapes :
    ∃ stream again : TokenStream,
      stream.toList = [⟨.characters, maxOffset, "\"\\\x01é"⟩] ∧
      (∀ token ∈ stream.toList, token.Fits) ∧
      stream.toJson.compact = "[\x7b\"kind\":\"STRING_CHARACTERS\",\"offset\":18446744073709551615,"
        ++ "\"value\":\"\\\"\\\\\\u0001é\"\x7d]" ∧
      Json.decode? TokenStream.ofJson? stream.toJson.compact = some again ∧
      again.toList = stream.toList := by
  have content : (TokenStream.ofList [⟨.characters, maxOffset, "\"\\\x01é"⟩]).toList =
      [⟨.characters, maxOffset, "\"\\\x01é"⟩] := TokenStream.toList_ofList _
  have fits : ∀ token ∈ (TokenStream.ofList [⟨.characters, maxOffset, "\"\\\x01é"⟩]).toList,
      token.Fits := by
    rw [content, List.forall_mem_singleton]
    exact Nat.le_refl _
  obtain ⟨again, read, same⟩ := json_roundTrip.1.1 _ fits
  exact ⟨_, again, content, fits, by decide +kernel, read, same⟩

end CssSelector
