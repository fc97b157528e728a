import VectorScene.Markup.Assembly
import VectorScene.Markup.Completion
import VectorScene.Markup.Expansion
import VectorScene.Markup.Namespace

/-!
# Reading documents

A text is a document when it is well-formed markup with namespaces.  Its root is
read with all names stripped of their namespaces.
-/

namespace VectorScene.Markup

/-- A text without the mark of its encoding. -/
def dropByteOrderMark : List Char → List Char
  | c :: rest => if c.toNat = 0xFEFF then rest else c :: rest
  | [] => []

/-- The root of a document with its names as they stand there. -/
def source? (text : List Char) : Option (Node String) :=
  let content := dropByteOrderMark text
  if content.all isLegal then
    (prolog? (normalizeLines content)).bind fun (doctype, rest) =>
      if doctype.admits (byteCount content) rest then (doctype.events? rest).bind root?
      else none
  else none

/-- The root of a document with resolved names. -/
def document? (text : List Char) : Option (Node String) :=
  (source? text).bind (Node.resolve? .outermost)

/-- Read a document. -/
def Node.parse (text : String) : Except Fault (Node String) :=
  match document? text.toList with
  | some root => .ok root.strip
  | none => .error .malformedDocument

/-- Read a document from the bytes of a file.  They are taken as a text in UTF-8, in which all
documents are written here.  A version declaration that names another encoding is not
followed. -/
def Node.read (content : ByteArray) : Except Fault (Node String) :=
  match String.fromUTF8? content with
  | some text => parse text
  | none => .error .malformedDocument

/-- A file that holds a text is read like the text. -/
theorem Node.read_toUTF8 (text : String) : read text.toUTF8 = parse text := by
  have decoded : String.fromUTF8? text.toUTF8 = some text := dif_pos text.isValidUTF8
  rw [read, decoded]

end VectorScene.Markup
