import GraphSelect.Proofs.Text.Scan
import GraphSelect.Selector.Compile

/-!
# The grammar of selectors

A grammar says which texts are selectors and which stages they stand for, without saying how they
are read. A piece of a selector may depend on the one character that comes after it: a name goes
on as far as it can, a star is not followed by a star, and only some characters may follow an
index. The relations for such pieces therefore carry that character, or nothing at the end of the
text. Blocks hold selectors of one level less, so the relation for selectors is defined by
recursion on the levels.
-/
namespace GraphSelect.Grammar

open Text
open Selector (isIdentChar isQuote)

/-- A quoted text behind its opening quote, with its content. A quote behind a backslash does not
close it and stands for itself. -/
inductive Quoted (quote : Char) : List Char → List Char → Prop
  | close : Quoted quote [quote] []
  | escaped {s t : List Char} (h : Quoted quote s t) : Quoted quote ('\\' :: quote :: s) (quote :: t)
  | plain {c : Char} {s t : List Char} (hc : c ≠ quote) (hs : c = '\\' → s.head? ≠ some quote)
      (h : Quoted quote s t) : Quoted quote (c :: s) (c :: t)

inductive QuotedText : List Char → List Char → Prop
  | mk {quote : Char} {s t : List Char} (hq : isQuote quote) (h : Quoted quote s t) :
      QuotedText (quote :: s) t

def Identifier (t : List Char) : Prop := t ≠ [] ∧ ∀ c ∈ t, isIdentChar c

inductive AttributeName : List Char → Regex → Prop
  | star {r : Regex} (hr : Regex.anchored ".*" = .ok r) : AttributeName ['*'] r
  | quoted {t content : List Char} {r : Regex} (ht : QuotedText t content)
      (hr : Regex.anchored (String.ofList content) = .ok r) : AttributeName t r
  | word {t : List Char} {r : Regex} (ht : Identifier t)
      (hr : Regex.literal (String.ofList t) = .ok r) : AttributeName t r

/-- The value in an attribute clause: a quoted pattern, or any text, which may be empty, up to the
closing bracket. -/
inductive AttributeValue : List Char → Regex → Prop
  | quoted {t content : List Char} {r : Regex} (ht : QuotedText t content)
      (hr : Regex.anchored (String.ofList content) = .ok r) : AttributeValue t r
  | bare {t : List Char} {r : Regex} (ht : Trimmed t) (hclose : ']' ∉ t)
      (hquote : StopsAt isQuote t.head?) (hr : Regex.literal (String.ofList t) = .ok r) :
      AttributeValue t r

inductive AttributeClause : List Char → Filter → Prop
  | name {a t b : List Char} {r : Regex} (ha : Blanks a) (ht : AttributeName t r) (hb : Blanks b) :
      AttributeClause (a ++ t ++ b ++ [']']) (.hasAttribute r none)
  | value {a t b c u d : List Char} {r v : Regex} (ha : Blanks a) (ht : AttributeName t r)
      (hb : Blanks b) (hc : Blanks c) (hu : AttributeValue u v) (hd : Blanks d) :
      AttributeClause (a ++ t ++ b ++ '=' :: (c ++ u ++ d ++ [']'])) (.hasAttribute r (some v))

inductive ArgumentValue : List Char → String × Bool → Prop
  | quoted {t content : List Char} (ht : QuotedText t content) :
      ArgumentValue t (String.ofList content, true)
  | bare {t : List Char} (hne : t ≠ []) (ht : Trimmed t) (hend : ∀ c ∈ t, c ≠ ',' ∧ c ≠ ')')
      (hquote : StopsAt isQuote t.head?) : ArgumentValue t (String.ofList t, false)

/-- A name of an argument stands in front of an equals sign. -/
def HasKey (t : List Char) : Prop := ∃ k b u, Identifier k ∧ Blanks b ∧ t = k ++ b ++ '=' :: u

inductive Argument : List Char → Option String × String × Bool → Prop
  | named {a k b c t d : List Char} {v : String × Bool} (ha : Blanks a) (hk : Identifier k)
      (hb : Blanks b) (hc : Blanks c) (ht : ArgumentValue t v) (hd : Blanks d) :
      Argument (a ++ k ++ b ++ '=' :: (c ++ t ++ d)) (some (String.ofList k), v)
  | positional {a t d : List Char} {v : String × Bool} (ha : Blanks a) (ht : ArgumentValue t v)
      (hkey : ¬ HasKey t) (hd : Blanks d) : Argument (a ++ t ++ d) (none, v)

inductive ArgumentList : List Char → List (Option String × String × Bool) → Prop
  | last {t : List Char} {a : Option String × String × Bool} (ht : Argument t a) :
      ArgumentList t [a]
  | more {t u : List Char} {a : Option String × String × Bool}
      {as : List (Option String × String × Bool)} (ht : Argument t a) (hu : ArgumentList u as) :
      ArgumentList (t ++ ',' :: u) (a :: as)

inductive Arguments : List Char → List (Option String × String × Bool) → Prop
  | none {t : List Char} (ht : Blanks t) : Arguments t []
  | some {t : List Char} {as : List (Option String × String × Bool)} (ht : ArgumentList t as) :
      Arguments t as

/-- The arguments that a list passes to a function: each has its name as its key, or else its place in
the list, counted from zero. -/
def passed (as : List (Option String × String × Bool)) : Args where
  items := as.mapIdx fun place a => { key := a.1.getD (toString place), value := a.2.1, quoted := a.2.2 }

def mayFollowIndex (c : Char) : Bool :=
  isBlank c || c = '/' || c = '[' || c = '\x7b' || c = '}'

/-- One filter of a segment. `next` is the character behind it, and `Block` says which texts
stand in blocks. -/
inductive Snippet (registry : Registry) (Block : List Char → List Stage → Prop)
    (next : Option Char) : List Char → Filter → Prop
  | quoted {t content : List Char} {r : Regex} (ht : QuotedText t content)
      (hr : Regex.anchored (String.ofList content) = .ok r) : Snippet registry Block next t (.name r)
  | word {t : List Char} {r : Regex} (ht : Identifier t) (hnext : StopsAt isIdentChar next)
      (hcall : next ≠ some '(') (hr : Regex.literal (String.ofList t) = .ok r) :
      Snippet registry Block next t (.name r)
  | star (hnext : next ≠ some '*') : Snippet registry Block next ['*'] .any
  | index {digits : List Char} (hne : digits ≠ []) (hd : ∀ c ∈ digits, c.isDigit)
      (hbound : digitsValue digits < wordBound) (hnext : StopsAt (!mayFollowIndex ·) next) :
      Snippet registry Block next ('#' :: digits) (.index (digitsValue digits))
  | clause {t : List Char} {f : Filter} (ht : AttributeClause t f) :
      Snippet registry Block next ('[' :: t) f
  | call {w t : List Char} {as : List (Option String × String × Bool)} {accepts : Predicate}
      (hw : Identifier w) (ht : Arguments t as)
      (hr : registry.resolve (String.ofList w) (passed as) = .ok accepts) :
      Snippet registry Block next (w ++ '(' :: (t ++ [')']))
        (.function (String.ofList w) (passed as) accepts)
  | block {t : List Char} {stages : List Stage} (ht : Block t stages) :
      Snippet registry Block next ('\x7b' :: (t ++ ['}'])) (.has ⟨String.ofList (trim t), stages⟩)

section

variable (registry : Registry) (Block : List Char → List Stage → Prop)

inductive Snippets (next : Option Char) : List Char → List Filter → Prop
  | last {t : List Char} {f : Filter} (ht : Snippet registry Block next t f) : Snippets next t [f]
  | more {t u : List Char} {f : Filter} {fs : List Filter}
      (ht : Snippet registry Block u.head? t f) (hu : Snippets next u fs) :
      Snippets next (t ++ u) (f :: fs)

/-- A segment that is reached by a relation. A dot alone stays in place, and two stars take what
can be reached, whatever the relation. -/
inductive Segment (relation : Relation) (next : Option Char) : List Char → Stage → Prop
  | here : Segment relation next ['.'] ⟨.current, [.origin]⟩
  | anywhere : Segment relation next ['*', '*'] ⟨.wildcard, [.any]⟩
  | filters {t : List Char} {fs : List Filter} (hdot : t ≠ ['.'])
      (ht : Snippets registry Block next t fs) : Segment relation next t ⟨relation, fs⟩

inductive Separator : List Char → Relation → Prop
  | slash {a b : List Char} (ha : Blanks a) (hb : Blanks b) : Separator (a ++ '/' :: b) .immediate
  | slashes {a b : List Char} (ha : Blanks a) (hb : Blanks b) :
      Separator (a ++ '/' :: '/' :: b) .descendant
  | blanks {a : List Char} (hne : a ≠ []) (ha : Blanks a) : Separator a .descendant

inductive Lead : List Char → Relation → Prop
  | none : Lead [] .descendant
  | slash {b : List Char} (hb : Blanks b) : Lead ('/' :: b) .immediate
  | slashes {b : List Char} (hb : Blanks b) : Lead ('/' :: '/' :: b) .descendant

inductive Segments (next : Option Char) : Relation → List Char → List Stage → Prop
  | last {relation : Relation} {t : List Char} {stage : Stage}
      (ht : Segment registry Block relation next t stage) : Segments next relation t [stage]
  | more {relation following : Relation} {t gap u : List Char} {stage : Stage}
      {stages : List Stage} (ht : Segment registry Block relation gap.head? t stage)
      (hgap : Separator gap following) (hu : Segments next following u stages) :
      Segments next relation (t ++ gap ++ u) (stage :: stages)

inductive SelectorOver (next : Option Char) : List Char → List Stage → Prop
  | mk {a lead t z : List Char} {relation : Relation} {stages : List Stage} (ha : Blanks a)
      (hlead : Lead lead relation) (ht : Segments registry Block (z.head?.or next) relation t stages)
      (hz : Blanks z) : SelectorOver next (a ++ lead ++ t ++ z) stages

end

/-- A selector in which blocks are nested at most `levels` deep. -/
def IsSelector (registry : Registry) :
    (levels : Nat) → (next : Option Char) → List Char → List Stage → Prop
  | 0 => SelectorOver registry fun _ _ => False
  | levels + 1 => SelectorOver registry (IsSelector registry levels (some '}'))

end GraphSelect.Grammar
