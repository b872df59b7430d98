import Itinerary.Proofs.Query.ReadBack

/-!
# Tokens on their way

A token is handed to a client, who may put it into an address, a form or a line of its own, and who
sends it back with blanks around it. It stands that: it is made of ASCII letters, digits, hyphens
and underscores alone, and it is read with any blanks around it (`Token.decode_surrounded`). This
holds of every continuation, whatever texts are in it.

What does not come back is an offset in minutes whose number stands for an offset that is not known
in minutes. The word is the same, and so is the offset that the word stands for
(`Continuation.reread`).
-/

namespace Itinerary

namespace Continuation

/-- The continuation with the offset that the word of its time stands for. -/
def reread (c : Continuation) : Continuation :=
  { c with query := { c.query with time := c.query.time.reread } }

/-- What a continuation and the one that comes back of it have in common: all of the query, of its
time the instant and the word of the offset, the options, and the cursors. -/
structure Kept (c back : Continuation) : Prop where
  origin : back.query.origin = c.query.origin
  via : back.query.via = c.query.via
  destination : back.query.destination = c.query.destination
  time : c.query.time.Agrees back.query.time
  bound : back.query.bound = c.query.bound
  options : back.options = c.options
  earlierCursor : back.earlierCursor = c.earlierCursor
  laterCursor : back.laterCursor = c.laterCursor

/-- What comes back of a continuation is kept but for the kind of the offset. -/
theorem kept_reread (c : Continuation) : c.Kept c.reread where
  origin := rfl
  via := rfl
  destination := rfl
  time := c.query.time.agrees_reread
  bound := rfl
  options := rfl
  earlierCursor := rfl
  laterCursor := rfl

/-- The offset that comes back comes back again: a second trip changes nothing. -/
theorem genuine_reread (c : Continuation) : c.reread.query.time.offset.Genuine :=
  Time.Offset.genuine_ofWord _

/-- A continuation is written as the one that comes back of it is. -/
theorem toJson_reread (c : Continuation) : c.reread.toJson = c.toJson := by
  have offset : c.query.time.offset.reread.toJson = c.query.time.offset.toJson :=
    congrArg (fun word : Int32 => Json.int word.toInt) (Time.Offset.toWord_ofWord _)
  have time : c.query.time.reread.toJson = c.query.time.toJson := by
    rw [Time.Moment.toJson, Time.Moment.toJson]
    exact congrArg (fun o => Json.obj [("instant", .int c.query.time.ms), ("offset", o)]) offset
  have query : c.reread.query.toJson = c.query.toJson := by
    rw [Query.toJson, Query.toJson]
    exact congrArg (fun m => Json.obj [("from", c.query.origin.toJson),
      ("via", .opt Location.toJson c.query.via), ("to", c.query.destination.toJson), ("time", m),
      ("direction", c.query.bound.toJson)]) time
  rw [toJson, toJson, query]
  rfl

end Continuation

namespace Token

/-- A continuation and the one that comes back of it have the same token. -/
theorem encode_reread (c : Continuation) : encode c.reread = encode c := by
  rw [encode, encode, c.toJson_reread]

/-- A letter is an ASCII letter, a digit, a hyphen or an underscore. -/
theorem letter_urlSafe {n : Nat} (small : n < 64) :
    (Text.Base64.letter n).isAlphanum = true ∨ Text.Base64.letter n = '-' ∨
      Text.Base64.letter n = '_' := by
  have all : ∀ n < 64, (Text.Base64.letter n).isAlphanum = true ∨ Text.Base64.letter n = '-' ∨
    Text.Base64.letter n = '_' := by decide
  exact all n small

/-- A token holds nothing that would have to be escaped in a query string. -/
theorem urlSafe_of_mem_encode {c : Continuation} {letter : Char}
    (mem : letter ∈ (encode c).toList) :
    letter.isAlphanum = true ∨ letter = '-' ∨ letter = '_' := by
  obtain ⟨n, small, rfl⟩ := Text.Base64.exists_letter_of_mem_toText mem
  exact letter_urlSafe small

/-- Blanks around a token are of no account. -/
theorem decode_of_blanks (c : Continuation) {before after : String}
    (front : Text.isBlankText before = true) (back : Text.isBlankText after = true) :
    decode (before ++ encode c ++ after) = decode (encode c) := by
  have visible := visible_toText c.toJson.text.toUTF8.toList
  rw [decode, decode, encode, Text.trim_surrounded front back visible,
    Text.trim_eq_of_visible visible]

/-- Every token is read, as its continuation with the offset that the word of its time stands for.
-/
theorem decode_encode_reread (c : Continuation) : decode (encode c) = .ok c.reread := by
  rw [← encode_reread]
  exact decode_encode c.genuine_reread

/-- Every continuation has a token of ASCII letters, digits, hyphens and underscores, and with any
blanks around it the token is read as a continuation that keeps query, options and cursors, of the
time of the query the instant and the word of the offset. -/
theorem decode_surrounded (c : Continuation) {before after : String}
    (front : Text.isBlankText before = true) (back : Text.isBlankText after = true) :
    (∀ letter ∈ (encode c).toList, letter.isAlphanum = true ∨ letter = '-' ∨ letter = '_') ∧
      ∃ read, decode (before ++ encode c ++ after) = .ok read ∧ c.Kept read := by
  refine ⟨fun letter mem => urlSafe_of_mem_encode mem, c.reread, ?_, c.kept_reread⟩
  rw [decode_of_blanks c front back, decode_encode_reread]

/-- A continuation with an offset in minutes that is read as that of the place, with no product
allowed, and with cursors that are empty or full of quotes. -/
def stray : Continuation where
  query :=
    { origin := ⟨.station, some "", none, some "Ort\n", some "\"Platz\" \\", some .empty⟩
      via := none
      destination := .atPoint ⟨-1, 2147483647⟩
      time := ⟨-9223372036854775808, .minutes Time.Offset.locationWord⟩
      bound := .arriveBy }
  options := { Options.default with products := some .empty }
  earlierCursor := some ""
  laterCursor := some "page:\"\u0001ß"

/-- A token between a no-break space with a line break and a tab, for a continuation whose offset is
misread. -/
theorem decode_surrounded_stray :
    Text.isBlankText "\u00a0\n" = true ∧ Text.isBlankText "\t" = true ∧
      ∃ read, decode ("\u00a0\n" ++ encode stray ++ "\t") = .ok read ∧ stray.Kept read := by
  have front : Text.isBlankText "\u00a0\n" = true := by decide
  have back : Text.isBlankText "\t" = true := by decide
  exact ⟨front, back, (decode_surrounded stray front back).2⟩

end Token

end Itinerary
