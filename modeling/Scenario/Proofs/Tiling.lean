import Mathlib.Data.List.Basic
import Scenario.Proofs.Execution

/-! # Tokens tile their source

A token names the stretch of the source that its value was taken from (`Occurs`). Where no blanks
are passed, the tokens of a source and the delimiters around them are all there is in it, in order
and without a gap (`tokenize_tiles`).
-/

namespace Scenario.Tiling

open Grammar

/-! ## Values are stretches of the source -/

/-- A token's value stands in a text where its offsets say. -/
def Occurs (source : List Char) (token : Token) : Prop :=
  ∃ front value back, source = front ++ (value ++ back) ∧ token.value = String.ofList value ∧
    token.start = front.length ∧ token.stop = (front ++ value).length

theorem occurs_token {p : Position} {before gap value rest : List Char}
    (offset : p.offset = before.length) (file : Option String) (kind : Kind) (inline : Bool) :
    Occurs (before ++ (gap ++ (value ++ rest)))
      ((p.after gap).token file kind value inline) := by
  refine ⟨before ++ gap, value, rest, by simp, rfl, ?_, ?_⟩
  · simp [Position.token, offset]
  · simp only [Position.token, Position.offset_after, offset, List.length_append]
    omega

theorem occurs_of_reads {options : Options} {file : Option String} {context : Context}
    {p : Position} {s : List Char} {reading : Reading}
    (reads : Reads options file context p s reading) (before : List Char)
    (offset : p.offset = before.length) :
    ∀ token ∈ reading.tokens, Occurs (before ++ s) token := by
  induction reads generalizing before with
  | @complete context p lead free leads =>
    intro token member
    obtain rfl : token = _ := List.mem_singleton.1 member
    have occurs : Occurs (before ++ (lead ++ ([] ++ []))) _ :=
      occurs_token offset file .endOfInput false
    simpa using occurs
  | broken unfinished =>
    intro token member
    simp at member
  | @piece context after p piece rest reading lexeme reads ih =>
    intro token member
    rcases List.mem_cons.1 member with rfl | member
    · rw [Piece.chars, List.append_assoc, List.append_assoc]
      exact occurs_token offset file piece.kind piece.inline
    · have occurs := ih (before ++ piece.chars) (by simp [offset]) token member
      rwa [List.append_assoc] at occurs

/-- The text between two offsets. -/
def slice (source : String) (start stop : Int) : String :=
  String.ofList ((source.toList.take stop.toNat).drop start.toNat)

theorem Occurs.bounds {source : List Char} {token : Token} (occurs : Occurs source token) :
    0 ≤ token.start ∧ token.start ≤ token.stop ∧ token.stop ≤ source.length := by
  obtain ⟨front, value, back, rfl, -, start, stop⟩ := occurs
  rw [start, stop]
  simp only [List.length_append]
  omega

theorem Occurs.value_eq_slice {source : String} {token : Token}
    (occurs : Occurs source.toList token) :
    token.value = slice source token.start token.stop := by
  obtain ⟨front, value, back, split, same, start, stop⟩ := occurs
  rw [slice, split, same, start, stop, Int.toNat_natCast, Int.toNat_natCast, ← List.append_assoc,
    List.take_left, List.drop_left]

/-! ## Tiles -/

/-- A token with the delimiters around it. -/
structure Tile where
  opening : List Char
  token : Token
  closing : List Char

/-- All characters of the tile. -/
def Tile.chars (tile : Tile) : List Char :=
  tile.opening ++ (tile.token.value.toList ++ tile.closing)

/-- The delimiters in a row of tiles that begins inside a label or not. -/
inductive Delimited : Bool → List Tile → Prop where
  | nil : Delimited false []
  | text {tile : Tile} {rest : List Tile} (kind : tile.token.kind = .text)
      (opening : tile.opening = []) (closing : tile.closing = [])
      (delimited : Delimited false rest) : Delimited false (tile :: rest)
  | directive {tile : Tile} {rest : List Tile} (kind : tile.token.kind = .tag)
      (opening : tile.opening = ['@']) (ends : EndsLine tile.closing (rest.flatMap Tile.chars))
      (delimited : Delimited false rest) : Delimited false (tile :: rest)
  | tag {tile : Tile} {rest : List Tile} (kind : tile.token.kind = .tag)
      (opening : tile.opening = ['[']) (closing : tile.closing = [']'])
      (delimited : Delimited false rest) : Delimited false (tile :: rest)
  /-- A tag without its bracket is the last of all. -/
  | openTag {tile : Tile} (kind : tile.token.kind = .tag) (opening : tile.opening = ['['])
      (closing : tile.closing = []) : Delimited false [tile]
  /-- A segment with another one after it. -/
  | segment {inside : Bool} {tile : Tile} {rest : List Tile} (kind : tile.token.kind = .label)
      (opening : tile.opening = if inside then [] else ['*']) (closing : tile.closing = ['|'])
      (delimited : Delimited true rest) : Delimited inside (tile :: rest)
  /-- The last segment of a label. -/
  | label {inside : Bool} {tile : Tile} {rest : List Tile} (kind : tile.token.kind = .label)
      (opening : tile.opening = if inside then [] else ['*'])
      (closing : EndsLine tile.closing (rest.flatMap Tile.chars) ∨
        (∃ newline, tile.closing = '|' :: newline ∧
          EndsLine newline (rest.flatMap Tile.chars)) ∨
        tile.closing = ['|'] ∧ rest = [])
      (delimited : Delimited false rest) : Delimited inside (tile :: rest)

theorem Delimited.kind_ne_endOfInput {inside : Bool} {tiles : List Tile}
    (delimited : Delimited inside tiles) : ∀ tile ∈ tiles, tile.token.kind ≠ .endOfInput := by
  induction delimited with
  | nil => simp
  | openTag kind opening closing => simp [kind]
  | _ => simp_all

/-- The tile of a piece. -/
def tileOf (piece : Piece) (p : Position) (file : Option String) : Tile :=
  ⟨piece.opening, piece.token p file, piece.closing⟩

theorem chars_tileOf {piece : Piece} (plain : piece.lead = []) (p : Position)
    (file : Option String) : (tileOf piece p file).chars = piece.chars := by
  simp [tileOf, Tile.chars, Piece.chars, Piece.gap, Piece.token, Position.token, plain]

/-- The end of a segment says whether the row goes on inside the label. -/
private theorem delimited_segment {inside : Bool} {tile : Tile} {tiles : List Tile}
    {after : Context} {rest : List Char} (kind : tile.token.kind = .label)
    (opening : tile.opening = if inside then [] else ['*'])
    (ends : SegmentEnd tile.closing after rest) (split : rest = tiles.flatMap Tile.chars)
    (alone : rest = [] → tiles = []) (delimited : Delimited (after = .label) tiles) :
    Delimited inside (tile :: tiles) := by
  generalize closing : tile.closing = chars at ends
  cases ends with
  | next fits => exact .segment kind opening closing delimited
  | last => exact .label kind opening (.inr (.inr ⟨closing, alone rfl⟩)) delimited
  | bar ends =>
    exact .label kind opening (.inr (.inl ⟨_, closing, split ▸ ends⟩)) delimited
  | line ends => exact .label kind opening (.inl (closing ▸ split ▸ ends)) delimited

/-- A complete reading that passes no blanks is a row of tiles and the end of the input. The context
says whether the row begins inside a label. -/
theorem exists_tiles {options : Options} {file : Option String} {context : Context} {p : Position}
    {s : List Char} {reading : Reading} (keep : options.skipBlanks = false)
    (reads : Reads options file context p s reading) (complete : reading.ending = .complete) :
    ∃ tiles last, reading.tokens = tiles.map Tile.token ++ [last] ∧ last.kind = .endOfInput ∧
      s = tiles.flatMap Tile.chars ∧ Delimited (context = .label) tiles := by
  induction reads with
  | @complete context p lead free leads =>
    refine ⟨[], _, rfl, rfl, leads.eq_nil keep, ?_⟩
    rw [decide_eq_false free]
    exact .nil
  | broken unfinished => cases complete
  | @piece context after p piece rest reading lexeme reads ih =>
    obtain ⟨tiles, last, same, kind, split, delimited⟩ := ih complete
    have plain : piece.lead = [] := lexeme.leads.eq_nil keep
    -- Nothing but the end of the input comes from an empty rest.
    have alone : rest = [] → tiles = [] := by
      intro none
      rw [reads.eq_of_nil none] at same
      cases tiles with
      | nil => rfl
      | cons tile tiles => simp at same
    refine ⟨tileOf piece p file :: tiles, last, ?_, kind, ?_, ?_⟩
    · rw [Reading.cons, same]
      rfl
    · rw [List.flatMap_cons, chars_tileOf plain, split]
    · cases lexeme with
      | directive free leads inside ends =>
        rw [decide_eq_false free]
        exact .directive rfl rfl (split ▸ ends) delimited
      | tag free leads inside single =>
        rw [decide_eq_false free]
        exact .tag rfl rfl rfl delimited
      | openTag lenient free leads inside single =>
        rw [decide_eq_false free, alone rfl]
        exact .openTag rfl rfl rfl
      | label free leads inside ends =>
        rw [decide_eq_false free]
        exact delimited_segment rfl rfl ends split alone delimited
      | segment inside ends => exact delimited_segment rfl rfl ends split alone delimited
      | text leads content prose stops first => exact .text rfl rfl rfl delimited

/-- Every source that is read to its end, where no blanks are passed, is exactly its tokens with
delimiters of the known forms around them, and each value is the stretch that its offsets name. -/
theorem tokenize_tiles {source : String} {file : Option String} {options : Options}
    {tokens : List Token} (keep : options.skipBlanks = false)
    (ok : tokenize source file options = .ok tokens) :
    (∀ token ∈ tokens,
      (0 ≤ token.start ∧ token.start ≤ token.stop ∧ token.stop ≤ source.length) ∧
      token.value = slice source token.start token.stop) ∧
    ∃ tiles, tokens.filter (·.kind ≠ .endOfInput) = tiles.map Tile.token ∧
      source = String.ofList (tiles.flatMap Tile.chars) ∧ Delimited false tiles := by
  obtain ⟨reading, reads, complete, rfl⟩ := Scan.tokenize_eq_ok_iff.1 ok
  constructor
  · intro token member
    have occurs : Occurs source.toList token := occurs_of_reads reads [] rfl token member
    have bounds := occurs.bounds
    rw [String.length_toList] at bounds
    exact ⟨bounds, occurs.value_eq_slice⟩
  · obtain ⟨tiles, last, same, kind, split, delimited⟩ := exists_tiles keep reads complete
    refine ⟨tiles, ?_, ?_, delimited⟩
    · have kept : (tiles.map Tile.token).filter (·.kind ≠ .endOfInput) = tiles.map Tile.token := by
        rw [List.filter_eq_self]
        intro token member
        obtain ⟨tile, inTiles, rfl⟩ := List.mem_map.1 member
        simpa using delimited.kind_ne_endOfInput tile inTiles
      rw [same, List.filter_append, kept]
      simp [kind]
    · rw [← split, String.ofList_toList]

/-- A lone carriage return after a bar, an empty name, a bracket inside a tag, and a tag left open
right after prose. -/
theorem tokenize_tiles_mixed :
    ∃ tokens tiles, tokenize "*p||\r[b[]x[[[o" none {} = .ok tokens ∧
      tokens.map (·.value) = ["p", "", "b[", "x[[", "o", ""] ∧
      tokens.filter (·.kind ≠ .endOfInput) = tiles.map Tile.token ∧
      "*p||\r[b[]x[[[o" = String.ofList (tiles.flatMap Tile.chars) ∧ Delimited false tiles := by
  have ok : tokenize "*p||\r[b[]x[[[o" none {} = .ok
      [{ kind := .label, value := "p", column := 2, start := 1, stop := 2 },
        { kind := .label, value := "", column := 4, start := 3, stop := 3 },
        { kind := .tag, value := "b[", column := 7, start := 6, stop := 8 },
        { kind := .text, value := "x[[", column := 10, start := 9, stop := 12 },
        { kind := .tag, value := "o", inline := true, column := 14, start := 13, stop := 14 },
        { kind := .endOfInput, value := "", column := 15, start := 14, stop := 14 }] := by
    cbv
  obtain ⟨-, tiles, same, split, delimited⟩ := tokenize_tiles rfl ok
  exact ⟨_, tiles, ok, rfl, same, split, delimited⟩

end Scenario.Tiling
