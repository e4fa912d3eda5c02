/-! # Text assembled from pieces

A `Buffer` collects pieces of text and joins them on demand. Only pieces with content are kept, so
a buffer without pieces is exactly a buffer whose text is empty. The view of a buffer is `text`.
-/

namespace Scenario.Text

/-- Pieces of text waiting to be joined (`StringBuilder`). -/
structure Buffer where
  /-- The pieces, the latest first. -/
  pieces : List String := []
  /-- No piece is empty. -/
  filled : ∀ piece ∈ pieces, piece ≠ "" := by simp

namespace Buffer

/-- The buffer without pieces. -/
def empty : Buffer := {}

/-- Add a piece at the end; the empty text adds nothing (`StringBuilder.append`). -/
def append (buffer : Buffer) (piece : String) : Buffer :=
  if h : piece = "" then buffer
  else
    { pieces := piece :: buffer.pieces
      filled := by
        intro other member
        rcases List.mem_cons.1 member with rfl | member
        · exact h
        · exact buffer.filled other member }

/-- All pieces joined in the order in which they were added (`StringBuilder.build`). -/
def text (buffer : Buffer) : String :=
  String.join buffer.pieces.reverse

/-- The number of pieces, which says nothing about the length of the text
(`StringBuilder.__len__`). -/
def size (buffer : Buffer) : Nat := buffer.pieces.length

/-- Whether no piece was added (`StringBuilder.__bool__`). -/
def isEmpty (buffer : Buffer) : Bool := buffer.pieces.isEmpty

@[simp] theorem append_empty (buffer : Buffer) : buffer.append "" = buffer := by
  simp [append]

@[simp] theorem text_empty : empty.text = "" := rfl

@[simp] theorem text_append (buffer : Buffer) (piece : String) :
    (buffer.append piece).text = buffer.text ++ piece := by
  unfold append
  split <;> simp_all [text]

/-- A buffer without pieces is one without text. -/
theorem isEmpty_iff_text_eq (buffer : Buffer) : buffer.isEmpty ↔ buffer.text = "" := by
  obtain ⟨pieces, filled⟩ := buffer
  cases pieces with
  | nil => simp [isEmpty, text]
  | cons piece pieces =>
      have content := filled piece List.mem_cons_self
      simp [isEmpty, text, content]

end Buffer

/-- What a sequence of changes does to a buffer: add pieces one by one, or drop them all. -/
inductive Buffer.Change where
  | append (pieces : List String)
  | clear
  deriving DecidableEq

/-- The buffer after one change. -/
def Buffer.apply (buffer : Buffer) : Buffer.Change → Buffer
  | .append pieces => pieces.foldl Buffer.append buffer
  | .clear => .empty

end Scenario.Text
