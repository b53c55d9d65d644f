/-! Reserved words of the query language. A name is a keyword when it is spelled exactly like one;
upper and lower case differ. -/
namespace QueryScan

/-- A word of the grammar. A trailing underscore in a constructor is not part of the word. -/
inductive Keyword where
  | ancestor | ancestorOrSelf | attribute | child | descendant | descendantOrSelf | following
  | followingSibling | parent | preceding | precedingSibling | selfAxis | and | as | at_ | by_
  | case | cast | castable | catch_ | count | default | div | else_ | every | except | for_
  | group | idiv | if_ | in_ | instance_ | intersect | is | isnot | let_ | mod | of | or | order
  | ordered | return_ | satisfies | some | stable | switch | then_ | to | treat | try_
  | typeswitch | union | unordered | validate | where_ | collation | ascending | descending
  | empty | greatest | least | lax | strict | tumbling | sliding | window | start | end_ | only
  | when | previous | next | allowing | eq | ne | lt | le | gt | ge | comment | document
  | documentNode | element | emptySequence | item | node | namespaceNode | processingInstruction
  | schemaAttribute | schemaElement | text | function | map | array | collection | xpointer
  | baseUri | boundarySpace | construction | context | copyNamespaces | decimalFormat | declare
  | encoding | external | import_ | inherit | module_ | namespace_ | noInherit | noPreserve
  | option | ordering | preserve | schema | strip | variable_ | version | xquery
  | decimalSeparator | groupingSeparator | infinity | minusSign | nan | percent | perMille
  | zeroDigit | digit | patternSeparator | exponentSeparator | after | before | copy | delete
  | first | insert | into | last | modify | rename | replace | type | update | value | with_
deriving DecidableEq, Repr

namespace Keyword

def spelling : Keyword → String
  | .ancestor => "ancestor"
  | .ancestorOrSelf => "ancestor-or-self"
  | .attribute => "attribute"
  | .child => "child"
  | .descendant => "descendant"
  | .descendantOrSelf => "descendant-or-self"
  | .following => "following"
  | .followingSibling => "following-sibling"
  | .parent => "parent"
  | .preceding => "preceding"
  | .precedingSibling => "preceding-sibling"
  | .selfAxis => "self"
  | .and => "and"
  | .as => "as"
  | .at_ => "at"
  | .by_ => "by"
  | .case => "case"
  | .cast => "cast"
  | .castable => "castable"
  | .catch_ => "catch"
  | .count => "count"
  | .default => "default"
  | .div => "div"
  | .else_ => "else"
  | .every => "every"
  | .except => "except"
  | .for_ => "for"
  | .group => "group"
  | .idiv => "idiv"
  | .if_ => "if"
  | .in_ => "in"
  | .instance_ => "instance"
  | .intersect => "intersect"
  | .is => "is"
  | .isnot => "isnot"
  | .let_ => "let"
  | .mod => "mod"
  | .of => "of"
  | .or => "or"
  | .order => "order"
  | .ordered => "ordered"
  | .return_ => "return"
  | .satisfies => "satisfies"
  | .some => "some"
  | .stable => "stable"
  | .switch => "switch"
  | .then_ => "then"
  | .to => "to"
  | .treat => "treat"
  | .try_ => "try"
  | .typeswitch => "typeswitch"
  | .union => "union"
  | .unordered => "unordered"
  | .validate => "validate"
  | .where_ => "where"
  | .collation => "collation"
  | .ascending => "ascending"
  | .descending => "descending"
  | .empty => "empty"
  | .greatest => "greatest"
  | .least => "least"
  | .lax => "lax"
  | .strict => "strict"
  | .tumbling => "tumbling"
  | .sliding => "sliding"
  | .window => "window"
  | .start => "start"
  | .end_ => "end"
  | .only => "only"
  | .when => "when"
  | .previous => "previous"
  | .next => "next"
  | .allowing => "allowing"
  | .eq => "eq"
  | .ne => "ne"
  | .lt => "lt"
  | .le => "le"
  | .gt => "gt"
  | .ge => "ge"
  | .comment => "comment"
  | .document => "document"
  | .documentNode => "document-node"
  | .element => "element"
  | .emptySequence => "empty-sequence"
  | .item => "item"
  | .node => "node"
  | .namespaceNode => "namespace-node"
  | .processingInstruction => "processing-instruction"
  | .schemaAttribute => "schema-attribute"
  | .schemaElement => "schema-element"
  | .text => "text"
  | .function => "function"
  | .map => "map"
  | .array => "array"
  | .collection => "collection"
  | .xpointer => "xpointer"
  | .baseUri => "base-uri"
  | .boundarySpace => "boundary-space"
  | .construction => "construction"
  | .context => "context"
  | .copyNamespaces => "copy-namespaces"
  | .decimalFormat => "decimal-format"
  | .declare => "declare"
  | .encoding => "encoding"
  | .external => "external"
  | .import_ => "import"
  | .inherit => "inherit"
  | .module_ => "module"
  | .namespace_ => "namespace"
  | .noInherit => "no-inherit"
  | .noPreserve => "no-preserve"
  | .option => "option"
  | .ordering => "ordering"
  | .preserve => "preserve"
  | .schema => "schema"
  | .strip => "strip"
  | .variable_ => "variable"
  | .version => "version"
  | .xquery => "xquery"
  | .decimalSeparator => "decimal-separator"
  | .groupingSeparator => "grouping-separator"
  | .infinity => "infinity"
  | .minusSign => "minus-sign"
  | .nan => "NaN"
  | .percent => "percent"
  | .perMille => "per-mille"
  | .zeroDigit => "zero-digit"
  | .digit => "digit"
  | .patternSeparator => "pattern-separator"
  | .exponentSeparator => "exponent-separator"
  | .after => "after"
  | .before => "before"
  | .copy => "copy"
  | .delete => "delete"
  | .first => "first"
  | .insert => "insert"
  | .into => "into"
  | .last => "last"
  | .modify => "modify"
  | .rename => "rename"
  | .replace => "replace"
  | .type => "type"
  | .update => "update"
  | .value => "value"
  | .with_ => "with"

/-- Every keyword, grouped as the grammar uses them. -/
def all : List Keyword := [
  .ancestor, .ancestorOrSelf, .attribute, .child, .descendant, .descendantOrSelf, .following,
  .followingSibling, .parent, .preceding, .precedingSibling, .selfAxis, .and, .as, .at_, .by_,
  .case, .cast, .castable, .catch_, .count, .default, .div, .else_, .every, .except, .for_,
  .group, .idiv, .if_, .in_, .instance_, .intersect, .is, .isnot, .let_, .mod, .of, .or, .order,
  .ordered, .return_, .satisfies, .some, .stable, .switch, .then_, .to, .treat, .try_,
  .typeswitch, .union, .unordered, .validate, .where_, .collation, .ascending, .descending,
  .empty, .greatest, .least, .lax, .strict, .tumbling, .sliding, .window, .start, .end_, .only,
  .when, .previous, .next, .allowing, .eq, .ne, .lt, .le, .gt, .ge, .comment, .document,
  .documentNode, .element, .emptySequence, .item, .node, .namespaceNode, .processingInstruction,
  .schemaAttribute, .schemaElement, .text, .function, .map, .array, .collection, .xpointer,
  .baseUri, .boundarySpace, .construction, .context, .copyNamespaces, .decimalFormat, .declare,
  .encoding, .external, .import_, .inherit, .module_, .namespace_, .noInherit, .noPreserve,
  .option, .ordering, .preserve, .schema, .strip, .variable_, .version, .xquery,
  .decimalSeparator, .groupingSeparator, .infinity, .minusSign, .nan, .percent, .perMille,
  .zeroDigit, .digit, .patternSeparator, .exponentSeparator, .after, .before, .copy, .delete,
  .first, .insert, .into, .last, .modify, .rename, .replace, .type, .update, .value, .with_]

def ofSpelling? (word : String) : Option Keyword :=
  all.find? fun k => k.spelling == word

end Keyword

end QueryScan
