import QueryScan.Unicode.XmlTables

/-! Character classes of names, numbers and blanks. Names and numbers follow XML 1.0, so a later
letter of Unicode is not a letter here. ASCII characters are decided without a table. -/
namespace QueryScan.Unicode

def isAscii (c : Char) : Bool :=
  c.toNat < 128

def isBaseChar (c : Char) : Bool :=
  if isAscii c then c.isAlpha else inTable Xml.baseCharTable c.toNat

def isIdeographic (c : Char) : Bool :=
  inTable Xml.ideographicTable c.toNat

def isLetter (c : Char) : Bool :=
  isBaseChar c || isIdeographic c

/-- A decimal digit of any listed script, not only ASCII. -/
def isDigit (c : Char) : Bool :=
  if isAscii c then c.isDigit else inTable Xml.digitTable c.toNat

def isCombining (c : Char) : Bool :=
  !isAscii c && inTable Xml.combiningCharTable c.toNat

def isExtender (c : Char) : Bool :=
  !isAscii c && inTable Xml.extenderTable c.toNat

/-- May open a name. A colon may not: names here carry no qualifier. -/
def isNameStart (c : Char) : Bool :=
  c == '_' || isLetter c

def isNameChar (c : Char) : Bool :=
  if isAscii c then c.isAlphanum || c == '.' || c == '-' || c == '_'
  else isLetter c || isDigit c || isCombining c || isExtender c

/-- Space, tab, line feed or carriage return, and no other blank of Unicode. -/
def isBlank (c : Char) : Bool :=
  c == ' ' || c == '\t' || c == '\n' || c == '\r'

end QueryScan.Unicode
