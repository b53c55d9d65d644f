import QueryScan.Token.Keyword

/-! Kinds of tokens. A kind whose text is fixed is a symbol, an escape or a quote; every other kind
has many texts. -/
namespace QueryScan

inductive Delimiter where
  | quot | apos
deriving DecidableEq, Repr

namespace Delimiter

def char : Delimiter → Char
  | quot => '"'
  | apos => '\''

def ofChar? (c : Char) : Option Delimiter :=
  if c = '"' then some .quot else if c = '\'' then some .apos else none

end Delimiter

/-- An operator, a delimiter, or the closing mark of a construct that was not open. -/
inductive Symbol where
  | commentEnd | cdataEnd | instructionEnd
  | leftBrace | rightBrace
  | less | endTag | lessEq | before
  | greater | greaterEq | after
  | slash | doubleSlash
  | colon | comma | semicolon | star | question | plus | minus
  | leftBracket | rightBracket | leftParen | rightParen
  | dot | doubleDot
  | bar | atSign | dollar
  | ampEq | barEq | eq | notEq
deriving DecidableEq, Repr

namespace Symbol

def spelling : Symbol → List Char
  | commentEnd => ['-', '-', '>']
  | cdataEnd => [']', ']', '>']
  | instructionEnd => ['?', '>']
  | leftBrace => ['{']
  | rightBrace => ['}']
  | less => ['<']
  | endTag => ['<', '/']
  | lessEq => ['<', '=']
  | before => ['<', '<']
  | greater => ['>']
  | greaterEq => ['>', '=']
  | after => ['>', '>']
  | slash => ['/']
  | doubleSlash => ['/', '/']
  | colon => [':']
  | comma => [',']
  | semicolon => [';']
  | star => ['*']
  | question => ['?']
  | plus => ['+']
  | minus => ['-']
  | leftBracket => ['[']
  | rightBracket => [']']
  | leftParen => ['(']
  | rightParen => [')']
  | dot => ['.']
  | doubleDot => ['.', '.']
  | bar => ['|']
  | atSign => ['@']
  | dollar => ['$']
  | ampEq => ['&', '=']
  | barEq => ['|', '=']
  | eq => ['=']
  | notEq => ['!', '=']

def name : Symbol → String
  | commentEnd => "XmlCommentEnd"
  | cdataEnd => "XmlCdataEnd"
  | instructionEnd => "XmlPiEnd"
  | leftBrace => "LCurly"
  | rightBrace => "RCurly"
  | less => "Lt"
  | endTag => "EndTagStart"
  | lessEq => "LtEq"
  | before => "Before"
  | greater => "Gt"
  | greaterEq => "GtEq"
  | after => "After"
  | slash => "Slash"
  | doubleSlash => "DSlash"
  | colon => "Colon"
  | comma => "Comma"
  | semicolon => "Semicolon"
  | star => "Star"
  | question => "Question"
  | plus => "Plus"
  | minus => "Minus"
  | leftBracket => "LBracket"
  | rightBracket => "RBracket"
  | leftParen => "LParen"
  | rightParen => "RParen"
  | dot => "SelfDot"
  | doubleDot => "Parent"
  | bar => "Union"
  | atSign => "At"
  | dollar => "Dollar"
  | ampEq => "AndEq"
  | barEq => "OrEq"
  | eq => "Eq"
  | notEq => "Neq"

def all : List Symbol := [
  commentEnd, cdataEnd, instructionEnd, leftBrace, rightBrace, less, endTag, lessEq, before,
  greater, greaterEq, after, slash, doubleSlash, colon, comma, semicolon, star, question, plus,
  minus, leftBracket, rightBracket, leftParen, rightParen, dot, doubleDot, bar, atSign, dollar,
  ampEq, barEq, eq, notEq]

end Symbol

/-- What a token is. `blank` occurs only while blanks are explicit, `eof` only as the last. -/
inductive Kind where
  | eof
  | blank
  | name
  | keyword (word : Keyword)
  | integer
  | decimal
  | double
  | string
  | elementText
  | attributeText
  | entityRef
  | charRef
  | escape (delimiter : Delimiter)
  | quote (delimiter : Delimiter)
  | comment
  | cdata
  | instruction
  | pragmaStart
  | pragmaEnd
  | symbol (sign : Symbol)
deriving DecidableEq, Repr

namespace Kind

/-- The name that listings and counts use; all keywords share one. -/
def label : Kind → String
  | eof => "Eof"
  | blank => "Ws"
  | name => "NcName"
  | keyword _ => "Keyword"
  | integer => "IntegerLiteral"
  | decimal => "DecimalLiteral"
  | double => "DoubleLiteral"
  | string => "StringLiteral"
  | elementText => "ElementContent"
  | attributeText => "AttributeContent"
  | entityRef => "PredefinedEntityRef"
  | charRef => "CharRef"
  | escape .quot => "EscapeQuot"
  | escape .apos => "EscapeApos"
  | quote .quot => "Quot"
  | quote .apos => "Apos"
  | comment => "XmlComment"
  | cdata => "XmlCdata"
  | instruction => "XmlPi"
  | pragmaStart => "PragmaStart"
  | pragmaEnd => "PragmaEnd"
  | symbol s => s.name

def render : Kind → String
  | keyword k => "Keyword(" ++ k.spelling ++ ")"
  | k => k.label

def ofName (word : List Char) : Kind :=
  match Keyword.ofSpelling? (String.ofList word) with
  | some k => keyword k
  | none => name

/-- Every kind but the keywords. -/
def plain : List Kind :=
  [eof, blank, name, integer, decimal, double, string, elementText, attributeText, entityRef,
    charRef, escape .quot, escape .apos, quote .quot, quote .apos, comment, cdata, instruction,
    pragmaStart, pragmaEnd] ++ Symbol.all.map symbol

/-- The kind other than a keyword that has this label. -/
def ofLabel? (label : String) : Option Kind :=
  plain.find? fun k => k.label == label

def isLiteral : Kind → Bool
  | integer | decimal | double | string => true
  | _ => false

def isConstructorContent : Kind → Bool
  | elementText | attributeText | entityRef | charRef | escape _ => true
  | _ => false

end Kind

end QueryScan
