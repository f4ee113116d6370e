import QueryTutor.Query.Token.Cut
import QueryTutor.Query.Token.Vocabulary
import QueryTutor.Text.Phrase

/-!
# Words

Cutting off keywords of one or several words, names that their surroundings mark as names, and all
other words.
-/

namespace QueryTutor.Query.Token

open Text

/-- The keywords that are never names, whatever follows them. -/
def firmKeywords (_ : Char) : List (Kind × List String) :=
  [(.keyword, ["case", "in", "values", "using", "from", "as"])]

/-- The keywords that join a source from a given side. -/
def joinsFrom (side : String) : Kind × List String :=
  (.keyword, ["join", "inner join", "outer join", "straight join"].map (side ++ " " ++ ·))

/-- The keywords that can take several words, by their first letter and longer ones before their own
beginnings. -/
def phrases : Char → List (Kind × List String)
  | 'a' => [(.ordering, ["asc nulls first", "asc nulls last", "asc"])]
  | 'c' => [(.keyword, ["cross join"]), (.definition, ["create or replace", "create"])]
  | 'd' =>
    [(.ordering, ["desc nulls first", "desc nulls last", "desc"]),
      (.typeName, ["double precision"])]
  | 'e' => [(.keyword, ["end if", "end loop", "end while", "end case", "end"])]
  | 'f' => [joinsFrom "full"]
  | 'g' => [(.keyword, ["group by"])]
  | 'h' => [(.keyword, ["handler for"])]
  | 'i' => [(.keyword, ["inner join"]), (.comparison, ["ilike"])]
  | 'j' => [(.keyword, ["join"])]
  | 'l' =>
    [joinsFrom "left",
      (.keyword,
        ["explode", "inline", "parse_url_tuple", "posexplode", "stack"].map
          ("lateral view " ++ ·)),
      (.comparison, ["like"])]
  | 'n' =>
    [(.keyword, ["natural join", "not null", "nulls first", "nulls last"]),
      (.comparison, ["not like", "not ilike", "not rlike", "not regexp binary", "not regexp"])]
  | 'o' => [(.keyword, ["outer join", "order by"])]
  | 'p' => [(.keyword, ["primary key"])]
  | 'r' => [joinsFrom "right", (.comparison, ["rlike", "regexp binary", "regexp"])]
  | 's' => [(.keyword, ["straight join"])]
  | 'u' => [(.keyword, ["union all"])]
  | _ => []

/-- The first phrase of a table that stands here as whole words, letters in whatever case. -/
def phrase? (table : Char → List (Kind × List String)) (t : List Char) : Cut :=
  ((t.head?.map fun c => table (Fold.key c)).getD []).findSome? fun (k, ps) =>
    ps.findSome? fun phrase =>
      ((Phrase.splitBy? Fold.same phrase.toList t).filter fun (_, rest) => !startsWithWord rest).map
        fun (covered, rest) => (⟨k, covered⟩, rest)

/-- The end of a batch with the number of times that it is to run. -/
def batchEnd? : List Char → Cut
  | g :: o :: c :: r =>
    let ds := r.takeWhile isDigit
    let rest := r.dropWhile isDigit
    if Fold.same g 'g' && Fold.same o 'o' && isBlank c && !ds.isEmpty && !startsWithWord rest then
      some (⟨.keyword, g :: o :: c :: ds⟩, rest)
    else none
  | _ => none

/-- A change of the time zone, with the name of the zone in quotes. -/
def zoneShift? (t : List Char) : Cut :=
  ["at time zone ", "with' time zone "].findSome? fun phrase =>
    (Phrase.splitBy? Fold.same phrase.toList t).bind fun (covered, rest) =>
      let zone := (rest.drop 1).takeWhile (· != '\'')
      match rest, (rest.drop 1).dropWhile (· != '\'') with
      | '\'' :: _, '\'' :: behind =>
        if zone.isEmpty then none
        else some (⟨.zoneShift, covered ++ '\'' :: zone ++ ['\'']⟩, behind)
      | _, _ => none

/-- A name behind a mark, of at least two characters. -/
def markedBody? (mark t : List Char) : Cut :=
  match t with
  | c :: d :: r =>
    if isNameStart c && isWord d then
      some (⟨.name, mark ++ c :: d :: r.takeWhile isWord⟩, r.dropWhile isWord)
    else none
  | _ => none

/-- A name marked by an at sign or by one or two hashes. -/
def marked? : List Char → Cut
  | '@' :: r => markedBody? ['@'] r
  | '#' :: '#' :: r => markedBody? ['#', '#'] r
  | '#' :: r => markedBody? ['#'] r
  | _ => none

/-- A word that is a name because it stands behind a point, in front of one, or close to an opening
parenthesis. -/
def placedName? (before : Option Char) : List Char → Cut
  | [] => none
  | c :: r =>
    let rest := r.dropWhile isWord
    if isNameStart c
        && (before == some '.' || (rest.dropWhile isBlank).head? == some '.'
          || rest.head? == some '(') then
      some (⟨.name, c :: r.takeWhile isWord⟩, rest)
    else none

/-- A place for a value: a question mark, a per cent sign with the letter s, or a mark close to a
word. -/
def placeholder? (before : Option Char) : List Char → Cut
  | '?' :: r => some (⟨.placeholder, ['?']⟩, r)
  | '%' :: '(' :: r =>
    let key := r.takeWhile isWord
    match r.dropWhile isWord with
    | ')' :: c :: rest =>
      if !key.isEmpty && Fold.same 's' c then
        some (⟨.placeholder, '%' :: '(' :: key ++ [')', c]⟩, rest)
      else none
    | _ => none
  | '%' :: c :: r => if Fold.same 's' c then some (⟨.placeholder, ['%', c]⟩, r) else none
  | c :: r =>
    if (c == '$' || c == ':') && !before.any isWord && startsWithWord r then
      some (⟨.placeholder, c :: r.takeWhile isWord⟩, r.dropWhile isWord)
    else none
  | [] => none

/-- A backslash with a word close behind it. -/
def command? : List Char → Cut
  | '\\' :: r =>
    if startsWithWord r then some (⟨.other, '\\' :: r.takeWhile isWord⟩, r.dropWhile isWord)
    else none
  | _ => none

/-- A word, which can hold dollar signs and hashes behind its first character. -/
def word? : List Char → Cut
  | [] => none
  | c :: r =>
    if isWord c then
      let goesOn := fun d => isWord d || d == '$' || d == '#'
      let word := c :: r.takeWhile goesOn
      some (⟨Vocabulary.kindOf (upper word), word⟩, r.dropWhile goesOn)
    else none

end QueryTutor.Query.Token
