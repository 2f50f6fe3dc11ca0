import CssSelector.Token.Basic

/-!
# Token streams

A stream is filled at the back and consumed at the front; nothing is ever put back. The tokens
that were consumed stay in the buffer behind a counter, so that every operation but listing takes
constant time. `TokenStream.toList` is the view of a stream: the tokens not consumed yet.
-/

set_option autoImplicit false

namespace CssSelector

/-- The tokens from the counter on. -/
structure TokenStream where
  buffer : Array Token
  taken : Nat
  taken_le : taken ≤ buffer.size

namespace TokenStream

def ofArray (tokens : Array Token) : TokenStream := ⟨tokens, 0, Nat.zero_le _⟩

def ofList (tokens : List Token) : TokenStream := ofArray tokens.toArray

def empty : TokenStream := ofArray #[]

instance : Inhabited TokenStream := ⟨empty⟩

def toList (stream : TokenStream) : List Token := stream.buffer.toList.drop stream.taken

def length (stream : TokenStream) : Nat := stream.buffer.size - stream.taken

def isEmpty (stream : TokenStream) : Bool := stream.length = 0

def push (stream : TokenStream) (token : Token) : TokenStream where
  buffer := stream.buffer.push token
  taken := stream.taken
  taken_le := by
    have := stream.taken_le
    simp only [Array.size_push]
    omega

def append (stream : TokenStream) (tokens : Array Token) : TokenStream := tokens.foldl push stream

def get? (stream : TokenStream) (place : Nat) : Option Token :=
  stream.buffer[stream.taken + place]?

def front? (stream : TokenStream) : Option Token := stream.get? 0

def back? (stream : TokenStream) : Option Token :=
  if stream.isEmpty then none else stream.buffer.back?

/-- Removes tokens at the front, all of them if there are not so many. -/
def drop (stream : TokenStream) (count : Nat) : TokenStream where
  buffer := stream.buffer
  taken := min (stream.taken + count) stream.buffer.size
  taken_le := Nat.min_le_right _ _

def popFront? (stream : TokenStream) : Option (Token × TokenStream) :=
  stream.front?.map fun token => (token, stream.drop 1)

/-- The first tokens, all of them if there are not so many. -/
def take (stream : TokenStream) (count : Nat) : List Token :=
  (stream.buffer.extract stream.taken (stream.taken + count)).toList

/-- The first place from a given one on at which no token satisfies a condition. -/
def skipWhile (condition : Token → Bool) (buffer : Array Token) : Nat → Nat → Nat
  | 0, place => place
  | fuel + 1, place =>
      match buffer[place]? with
      | some token => if condition token then skipWhile condition buffer fuel (place + 1) else place
      | none => place

def countWhile (stream : TokenStream) (condition : Token → Bool) : Nat :=
  skipWhile condition stream.buffer stream.length stream.taken - stream.taken

def kinds (stream : TokenStream) : List TokenKind := stream.toList.map (·.kind)

def render (stream : TokenStream) : String :=
  "\n".intercalate (stream.toList.map Token.render)

/-! ## Operations in terms of the tokens that are left -/

@[simp]
theorem toList_ofArray (tokens : Array Token) : (ofArray tokens).toList = tokens.toList := by
  simp [ofArray, toList]

@[simp]
theorem toList_ofList (tokens : List Token) : (ofList tokens).toList = tokens := by
  simp [ofList]

@[simp]
theorem toList_empty : empty.toList = [] := by
  simp [empty]

@[simp]
theorem length_toList (stream : TokenStream) : stream.toList.length = stream.length := by
  simp [toList, length]

@[simp]
theorem toList_push (stream : TokenStream) (token : Token) :
    (stream.push token).toList = stream.toList ++ [token] := by
  have bound := stream.taken_le
  simp only [toList, push, Array.toList_push]
  rw [List.drop_append_of_le_length (by simpa using bound)]

@[simp]
theorem toList_append (stream : TokenStream) (tokens : Array Token) :
    (stream.append tokens).toList = stream.toList ++ tokens.toList := by
  rw [append, ← Array.foldl_toList]
  induction tokens.toList generalizing stream with
  | nil => simp
  | cons token rest hypothesis => simp [hypothesis]

@[simp]
theorem get?_eq (stream : TokenStream) (place : Nat) :
    stream.get? place = stream.toList[place]? := by
  simp [get?, toList]

@[simp]
theorem toList_drop (stream : TokenStream) (count : Nat) :
    (stream.drop count).toList = stream.toList.drop count := by
  have bound := stream.taken_le
  simp only [toList, drop, List.drop_drop]
  by_cases fits : stream.taken + count ≤ stream.buffer.size
  · rw [Nat.min_eq_left fits]
  · rw [Nat.min_eq_right (by omega), List.drop_of_length_le (by simp),
      List.drop_of_length_le (by simp; omega)]

@[simp]
theorem take_eq (stream : TokenStream) (count : Nat) :
    stream.take count = stream.toList.take count := by
  simp [take, toList]

private theorem skipWhile_eq (condition : Token → Bool) (buffer : Array Token)
    (fuel place : Nat) (enough : buffer.size - place ≤ fuel) :
    skipWhile condition buffer fuel place =
      place + ((buffer.toList.drop place).takeWhile condition).length := by
  induction fuel generalizing place with
  | zero => rw [skipWhile, List.drop_of_length_le (by simp; omega)]; simp
  | succ fuel hypothesis =>
      rw [skipWhile]
      by_cases inside : place < buffer.size
      · rw [List.drop_eq_getElem_cons (by simpa using inside)]
        simp only [Array.getElem?_eq_getElem inside, Array.getElem_toList, List.takeWhile_cons]
        split
        · rw [hypothesis (place + 1) (by omega)]
          simp only [List.length_cons]
          omega
        · simp
      · rw [Array.getElem?_eq_none (by omega), List.drop_of_length_le (by simp; omega)]
        simp

@[simp]
theorem countWhile_eq (stream : TokenStream) (condition : Token → Bool) :
    stream.countWhile condition = (stream.toList.takeWhile condition).length := by
  rw [countWhile, skipWhile_eq condition stream.buffer stream.length stream.taken
    (by simp [length]), toList]
  omega

end TokenStream

end CssSelector
