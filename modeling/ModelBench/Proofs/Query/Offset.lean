import ModelBench.Proofs.Query.Relation
import ModelBench.Proofs.Sql.Offset.Parentheses
import ModelBench.Query.Memory

/-!
# Evaluating by offsets

The evaluation of statements as it goes over bytes: every part of a statement is a slice of its text
between offsets that a scan has found. It goes wrong if a slice, a difference of lengths or a scan
is none, and a slice is none unless its ends are borders in order (`isSome_slice_iff`). It never goes
wrong, and it gives the answers of `Query.evaluate` (`evaluate_eq`).
-/

namespace ModelBench.Query.ByOffset

open Text Sql Sql.ByOffset

/-- A computation that gives an answer or an error, or nothing because it goes wrong. -/
abbrev Checked := ExceptT QueryError Option

variable {α β : Type} {text operand sql inside : List Char}

/-- The computation that gives an answer or an error. -/
def answered (answer : Except QueryError α) : Checked α := ExceptT.mk (some answer)

/-- The computation that goes wrong. -/
def crash : Checked α := ExceptT.mk none

@[simp] theorem lift_some_bind (a : α) (f : α → Checked β) :
    (liftM (some a : Option α) : Checked α) >>= f = f a := rfl

theorem answered_bind {f : α → Checked β} {g : α → Except QueryError β}
    (h : ∀ a, f a = answered (g a)) (x : Except QueryError α) :
    answered x >>= f = answered (x >>= g) := by
  cases x with
  | error => rfl
  | ok a => exact h a

/-! ## Literals -/

/-- What a text holds between two quotes of a kind. -/
def quotedBody (q : Char) (text : List Char) : Option (Option (List Char)) :=
  if 2 ≤ size text ∧ text.head? = some q ∧ text.getLast? = some q then
    do return some (← slice text 1 (← subtract (size text) 1))
  else some none

/-- What a conversion converts. -/
def castOperand (text : List Char) : Option (Option (List Char)) := do
  match ← stripKeyword "CAST".toList text with
  | none => return none
  | some rest =>
    match ← enclosedPart (trim rest) with
    | none => return none
    | some inside =>
      match (← topLevelMatches Separator.asWord inside).getLast? with
      | none => return none
      | some offset => return some (trim (← slice inside 0 offset))

/-- The cell of an expression that is no conversion. -/
def plainLiteral (text : List Char) : Checked Json := do
  if text.map Char.toLower = "null".toList then return .null
  else
    match ← quotedBody '"' text with
    | some body => return .string (String.ofList (unescape body))
    | none =>
      match ← quotedBody '\'' text with
      | some body => return .string (String.ofList (unescape body))
      | none =>
        if isNumber text then return .string (String.ofList text)
        else throw (unsupported "expression" text)

/-- The keywords that parts of statements start with. -/
def keywords : List (List Char) := [selectWord, "FROM".toList, "CAST".toList]

theorem stripKeyword_word {keyword : List Char} (listed : keyword ∈ keywords) (text : List Char) :
    stripKeyword keyword text = some (dropKeyword keyword text) := by
  have small : ∀ keyword ∈ keywords, AllSmall keyword := by decide
  exact stripKeyword_eq (small keyword listed) text

theorem castOperand_eq (text : List Char) :
    castOperand text = some (Query.castOperand text) := by
  rw [castOperand, Query.castOperand, stripKeyword_word (by decide)]
  cases dropKeyword "CAST".toList text with
  | none => rfl
  | some rest =>
    simp only [Option.bind_eq_bind, Option.bind_some, enclosedPart_eq]
    cases enclosed (trim rest) with
    | none => rfl
    | some inside =>
      obtain ⟨offsets, found, cuts⟩ := exists_cutLast (s := Separator.asWord) (by decide) inside
      simp only [Option.bind_some, found]
      generalize offsets.getLast? = offset, Separator.asWord.cutLast inside = parts at cuts ⊢
      cases cuts with
      | none => rfl
      | some cut =>
        simp only [cut.left, Option.bind_some]
        rfl

theorem length_of_castOperand (h : castOperand text = some (some operand)) :
    operand.length < text.length := by
  rw [castOperand_eq] at h
  exact castOperand_length (Option.some.inj h)

/-- The cell of an expression. -/
def literal (text : List Char) : Checked Json :=
  match stripKeyword "CAST".toList text with
  | none => crash
  | some none => plainLiteral text
  | some (some _) =>
    match _h : castOperand text with
    | none => crash
    | some none => throw (unsupported "CAST expression" text)
    | some (some operand) => literal operand
  termination_by text.length
  decreasing_by exact length_of_castOperand _h

/-! ## Relations -/

/-- The cell of an entry of a selection, and its name. -/
def entry (index : Nat) (text : List Char) : Checked (String × Json) := do
  let text := trim text
  match (← topLevelMatches Separator.asWord text).getLast? with
  | some offset =>
    let expression ← slice text 0 offset
    let name ← slice text (offset + size Separator.asWord.text) (size text)
    return (unquoteName (trim name), ← literal (trim expression))
  | none => return (s!"f{index}_", ← literal text)

/-- The cells of entries with their names, `index` being the position of the first one. -/
def entriesFrom (index : Nat) : List (List Char) → Checked (List (String × Json))
  | [] => return []
  | text :: rest => do return (← entry index text) :: (← entriesFrom (index + 1) rest)

/-- The entries of a selection of literals, and whether it gives a row at all. -/
def selection (sql : List Char) : Checked (List Char × Bool) := do
  match ← stripKeyword selectWord sql with
  | none => throw (unsupported "relation" sql)
  | some body =>
    match (← topLevelMatches Separator.limit body).head? with
    | none => return (body, true)
    | some offset =>
      let count ← slice body (offset + size Separator.limit.text) (size body)
      if trim count = ['0'] then return (← slice body 0 offset, false)
      else throw (unsupported "LIMIT other than 0" sql)

/-- The columns of a selection of literals, and its rows. -/
def literalSelect (sql : List Char) : Checked (List String × List (List Json)) := do
  let (body, hasRow) ← selection (trim sql)
  let entries ← entriesFrom 0 (← splitTopLevel Separator.comma body)
  return (entries.map Prod.fst, if hasRow then [entries.map Prod.snd] else [])

/-- The rows of further selections, which must have the same columns as the first one. -/
def unionFrom (columns : List String) : List (List Char) → Checked (List (List Json))
  | [] => return []
  | part :: rest => do
    let (found, rows) ← literalSelect part
    if found ≠ columns then throw (.query "UNION ALL branches have different columns")
    return rows ++ (← unionFrom columns rest)

/-- The rows of selections of literals that are put together. -/
def literalUnion (sql : List Char) : Checked QueryResult := do
  match ← splitTopLevel Separator.unionAll sql with
  | [] => return .empty
  | first :: rest =>
    let (columns, rows) ← literalSelect first
    return ⟨columns, rows ++ (← unionFrom columns rest)⟩

/-- The relation inside a selection that passes everything through. -/
def starOperand (sql : List Char) : Option (Option (List Char)) := do
  match ← stripKeyword selectWord sql with
  | none => return none
  | some rest =>
    match dropIgnoringCase ['*'] (trimStart rest) with
    | none => return none
    | some rest =>
      match ← stripKeyword "FROM".toList (trimStart rest) with
      | none => return none
      | some rest =>
        let rest := trimStart rest
        match ← matchingParen rest with
        | none => return none
        | some close =>
          let after ← slice rest (close + 1) (size rest)
          if isAliasClause after then return some (← slice rest 1 close) else return none

theorem starOperand_eq (sql : List Char) : starOperand sql = some (Query.starOperand sql) := by
  rw [starOperand, Query.starOperand, stripKeyword_word (by decide)]
  cases dropKeyword selectWord sql with
  | none => rfl
  | some rest =>
    simp only [Option.bind_eq_bind, Option.bind_some]
    cases dropIgnoringCase ['*'] (trimStart rest) with
    | none => rfl
    | some rest =>
      dsimp only
      rw [stripKeyword_word (by decide), Option.bind_some, Option.bind_some]
      cases dropKeyword "FROM".toList (trimStart rest) with
      | none => rfl
      | some rest =>
        simp only [matchingParen_eq, Option.bind_some]
        cases h : parenthesised (trimStart rest) with
        | none => rfl
        | some found =>
          obtain ⟨inside, after⟩ := found
          simp only [Option.map_some, Option.bind_some, slice_eq_parenthesised h]
          split_ifs <;> rfl

theorem length_of_starOperand (h : starOperand sql = some (some inside)) :
    inside.length < sql.length := by
  rw [starOperand_eq] at h
  exact starOperand_length (Option.some.inj h)

/-- The rows of a relation. -/
def relation (known : Known) (sql : List Char) : Checked QueryResult :=
  match known (String.ofList (trim sql)) with
  | some result => return result
  | none =>
    match _h : starOperand (trim sql) with
    | none => crash
    | some (some inside) => relation known inside
    | some none => literalUnion (trim sql)
  termination_by sql.length
  decreasing_by exact Nat.lt_of_lt_of_le (length_of_starOperand _h) (trim_length_le sql)

/-! ## Differences -/

/-- The columns that a selection names, and the relation it selects from. -/
def projection (sql : List Char) : Checked (List String × List Char) := do
  let sql := trim sql
  match ← stripKeyword selectWord sql with
  | none => throw (unsupported "projection" sql)
  | some body =>
    match (← topLevelMatches Separator.fromWord body).head? with
    | none => throw (unsupported "projection without FROM" sql)
    | some offset =>
      let names ← slice body 0 offset
      let source ← slice body (offset + size Separator.fromWord.text) (size body)
      match ← enclosedPart (trim source) with
      | none => throw (unsupported "projection source" sql)
      | some inside =>
        let columns := (splitAt ',' names).map fun name => unquoteName (trim name)
        return (columns.filter fun column => !column.isEmpty, inside)

/-- The rows of one selection that are not rows of another one with the same columns. -/
def exceptDistinct (known : Known) (left right : List Char) : Checked QueryResult := do
  let (columns, left) ← projection left
  let (otherColumns, right) ← projection right
  if columns ≠ otherColumns then
    let text := String.intercalate ", "
    throw (.query (s!"EXCEPT DISTINCT sides project different columns: [{text columns}] vs " ++
      s!"[{text otherColumns}]"))
  let left ← answered (project (← relation known left) columns)
  let right ← answered (project (← relation known right) columns)
  return ⟨columns, difference right left⟩

/-- The answer of a query. -/
def evaluate (known : Known) (sql : String) : Checked QueryResult := do
  let sql := trim sql.toList
  match ← splitTopLevel Separator.exceptDistinct sql with
  | [_] => relation known sql
  | [left, right] => exceptDistinct known left right
  | _ => throw (unsupported "chained EXCEPT DISTINCT" sql)

/-- The answer of a query to a memory. -/
def execute (m : Memory) (sql : String) : Checked QueryResult :=
  match m.errorFor sql with
  | some error => throw error
  | none => evaluate (fun key => m.relations.lookup key) sql

/-! ## Agreement -/

theorem quotedBody_eq {q : Char} (small : IsSmall q) (text : List Char) :
    quotedBody q text = some (Query.quotedBody q text) := by
  cases text with
  | nil => exact if_neg fun quoted => (Option.some_ne_none q) quoted.2.1.symm
  | cons c rest =>
    rw [quotedBody, Query.quotedBody]
    by_cases closed : c = q ∧ rest.getLast? = some q
    · obtain ⟨rfl, last⟩ := closed
      obtain ⟨body, rfl⟩ := List.getLast?_eq_some_iff.1 last
      have whole : size (c :: (body ++ [c])) = 1 + size body + 1 := by
        rw [size_cons, size_concat small, utf8Size_of_small small, Nat.add_assoc]
      have inner : slice (c :: (body ++ [c])) (size [c]) (size [c] + size body) = some body :=
        slice_append [c] body [c]
      rw [size_cons, size_nil, utf8Size_of_small small] at inner
      have quoted : 2 ≤ size (c :: (body ++ [c])) ∧ (c :: (body ++ [c])).head? = some c ∧
          (c :: (body ++ [c])).getLast? = some c :=
        ⟨by omega, rfl, List.getLast?_concat (l := c :: body)⟩
      rw [if_pos quoted, if_pos ⟨rfl, last⟩, whole, subtract, if_pos (by omega)]
      simp only [Option.bind_eq_bind, Option.bind_some, Nat.add_sub_cancel, inner,
        List.dropLast_concat]
      rfl
    · rw [if_neg closed, if_neg]
      rintro ⟨long, head, last⟩
      obtain rfl := Option.some.inj head
      cases rest with
      | nil =>
        rw [size_cons, utf8Size_of_small small, size_nil] at long
        omega
      | cons d rest => exact closed ⟨rfl, last⟩

theorem plainLiteral_eq (text : List Char) :
    plainLiteral text = answered (Query.plainLiteral text) := by
  rw [plainLiteral, Query.plainLiteral, quotedBody_eq (by decide), quotedBody_eq (by decide)]
  by_cases isNull : text.map Char.toLower = "null".toList
  · rw [if_pos isNull, if_pos isNull]
    rfl
  · rw [if_neg isNull, if_neg isNull]
    cases Query.quotedBody '"' text with
    | some body => rfl
    | none =>
      cases Query.quotedBody '\'' text with
      | some body => rfl
      | none =>
        by_cases number : isNumber text = true
        · simp only [number]
          rfl
        · simp only [number]
          rfl

theorem literal_eq (text : List Char) : literal text = answered (Query.literal text) := by
  have cast := castOperand_eq text
  rw [literal, stripKeyword_word (by decide)]
  cases keyword : dropKeyword "CAST".toList text with
  | none =>
    rw [Query.literal, keyword]
    exact plainLiteral_eq text
  | some rest =>
    dsimp only
    split
    · next h =>
      rw [cast] at h
      cases h
    · next h =>
      rw [cast] at h
      rw [Query.literal, keyword, if_pos Option.isSome_some]
      split
      · next found =>
        rw [found] at h
        cases h
      · rfl
    · next operand h =>
      have found : Query.castOperand text = some operand := Option.some.inj (cast.symm.trans h)
      have shorter := castOperand_length found
      rw [Query.literal_of_castOperand found, literal_eq operand]
  termination_by text.length

theorem entry_eq (index : Nat) (text : List Char) :
    entry index text = answered (Query.entry index text) := by
  obtain ⟨offsets, found, cuts⟩ :=
    exists_cutLast (s := Separator.asWord) (by decide) (trim text)
  rw [entry, Query.entry, found]
  dsimp only [lift_some_bind]
  generalize offsets.getLast? = offset, Separator.asWord.cutLast (trim text) = parts at cuts ⊢
  cases cuts with
  | none =>
    dsimp only
    rw [literal_eq]
    exact answered_bind (fun _ => rfl) _
  | some cut =>
    dsimp only
    rw [cut.left, cut.right]
    dsimp only [lift_some_bind]
    rw [literal_eq]
    exact answered_bind (fun _ => rfl) _

theorem entriesFrom_eq (index : Nat) (texts : List (List Char)) :
    entriesFrom index texts = answered (Query.entriesFrom index texts) := by
  induction texts generalizing index with
  | nil => rfl
  | cons text rest ih =>
    rw [entriesFrom, Query.entriesFrom, entry_eq, ih]
    exact answered_bind (fun _ => answered_bind (fun _ => rfl) _) _

theorem selection_eq (sql : List Char) : selection sql = answered (Query.selection sql) := by
  rw [selection, Query.selection, stripKeyword_word (by decide)]
  cases dropKeyword selectWord sql with
  | none => rfl
  | some body =>
    obtain ⟨offsets, found, cuts⟩ := exists_cutFirst (s := Separator.limit) (by decide) body
    dsimp only [lift_some_bind]
    rw [found]
    dsimp only [lift_some_bind]
    generalize offsets.head? = offset, Separator.limit.cutFirst body = parts at cuts ⊢
    cases cuts with
    | none => rfl
    | @some offset parts cut =>
      obtain ⟨entries, count⟩ := parts
      dsimp only [lift_some_bind]
      rw [cut.left, cut.right]
      by_cases zero : trim count = ['0']
      · simp only [lift_some_bind, zero]
        rfl
      · simp only [lift_some_bind, zero]
        rfl

theorem literalSelect_eq (sql : List Char) :
    literalSelect sql = answered (Query.literalSelect sql) := by
  rw [literalSelect, Query.literalSelect, selection_eq]
  refine answered_bind (fun selected => ?_) _
  obtain ⟨body, hasRow⟩ := selected
  dsimp only
  rw [splitTopLevel_eq (by decide)]
  dsimp only [lift_some_bind]
  rw [entriesFrom_eq]
  exact answered_bind (fun _ => rfl) _

theorem unionFrom_eq (columns : List String) (parts : List (List Char)) :
    unionFrom columns parts = answered (Query.unionFrom columns parts) := by
  induction parts with
  | nil => rfl
  | cons part rest ih =>
    rw [unionFrom, Query.unionFrom, literalSelect_eq, ih]
    refine answered_bind (fun selected => ?_) _
    obtain ⟨found, rows⟩ := selected
    by_cases differ : found ≠ columns
    · simp only [if_pos differ]
      rfl
    · simp only [if_neg differ]
      exact answered_bind (fun _ => rfl) _

theorem literalUnion_eq (sql : List Char) :
    literalUnion sql = answered (Query.literalUnion sql) := by
  rw [literalUnion, Query.literalUnion, splitTopLevel_eq (by decide)]
  dsimp only [lift_some_bind]
  cases Separator.unionAll.split sql with
  | nil => rfl
  | cons first rest =>
    dsimp only
    rw [literalSelect_eq]
    refine answered_bind (fun selected => ?_) _
    obtain ⟨columns, rows⟩ := selected
    dsimp only
    rw [unionFrom_eq]
    exact answered_bind (fun _ => rfl) _

theorem relation_eq (known : Known) (sql : List Char) :
    relation known sql = answered (Query.relation known sql) := by
  have star := starOperand_eq (trim sql)
  rw [relation]
  cases unknown : known (String.ofList (trim sql)) with
  | some result =>
    rw [Query.relation, unknown]
    rfl
  | none =>
    dsimp only
    split
    · next h =>
      rw [star] at h
      cases h
    · next inside h =>
      have found : Query.starOperand (trim sql) = some inside :=
        Option.some.inj (star.symm.trans h)
      have shorter := Nat.lt_of_lt_of_le (starOperand_length found) (trim_length_le sql)
      rw [relation_of_starOperand unknown found, relation_eq known inside]
    · next h =>
      rw [relation_eq_literalUnion unknown (Option.some.inj (star.symm.trans h))]
      exact literalUnion_eq (trim sql)
  termination_by sql.length

theorem projection_eq (sql : List Char) : projection sql = answered (Query.projection sql) := by
  rw [projection, Query.projection]
  dsimp only
  rw [stripKeyword_word (by decide)]
  cases dropKeyword selectWord (trim sql) with
  | none => rfl
  | some body =>
    obtain ⟨offsets, found, cuts⟩ := exists_cutFirst (s := Separator.fromWord) (by decide) body
    dsimp only [lift_some_bind]
    rw [found]
    dsimp only [lift_some_bind]
    generalize offsets.head? = offset, Separator.fromWord.cutFirst body = parts at cuts ⊢
    cases cuts with
    | none => rfl
    | @some offset parts cut =>
      obtain ⟨names, source⟩ := parts
      dsimp only [lift_some_bind]
      rw [cut.left, cut.right]
      dsimp only [lift_some_bind]
      rw [enclosedPart_eq]
      cases enclosed (trim source) <;> rfl

theorem exceptDistinct_eq (known : Known) (left right : List Char) :
    exceptDistinct known left right = answered (Query.exceptDistinct known left right) := by
  rw [exceptDistinct, Query.exceptDistinct, projection_eq, projection_eq]
  refine answered_bind (fun one => answered_bind (fun other => ?_) _) _
  obtain ⟨columns, left⟩ := one
  obtain ⟨otherColumns, right⟩ := other
  dsimp only
  by_cases differ : columns ≠ otherColumns
  · rw [if_pos differ, if_pos differ]
    rfl
  · rw [if_neg differ, if_neg differ, relation_eq, relation_eq]
    refine answered_bind (fun left => answered_bind (fun left => ?_) _) _
    exact answered_bind (fun right => answered_bind (fun right => rfl) _) _

/-- Evaluating by offsets never goes wrong, and it gives the answer of the evaluation. -/
theorem evaluate_eq (known : Known) (sql : String) :
    evaluate known sql = answered (Query.evaluate known sql) := by
  rw [evaluate, Query.evaluate, splitTopLevel_eq (by decide)]
  dsimp only [lift_some_bind]
  generalize Separator.exceptDistinct.split (trim sql.toList) = parts
  rcases parts with _ | ⟨left, _ | ⟨right, _ | ⟨part, rest⟩⟩⟩
  · rfl
  · exact relation_eq known (trim sql.toList)
  · exact exceptDistinct_eq known left right
  · rfl

theorem execute_eq (m : Memory) (sql : String) : execute m sql = answered (m.execute sql) := by
  rw [execute, Memory.execute]
  cases m.errorFor sql with
  | some error => rfl
  | none => exact evaluate_eq _ sql

/-- Evaluating by offsets never goes wrong, whatever the memory and the statement, and neither does
the evaluation of any part. Both recursions are on shorter texts. The offsets of separators and
parentheses are borders within the text and in order. -/
theorem answers_every_statement (m : Memory) (sql : String) :
    execute m sql = answered (m.execute sql) ∧
    (∀ known text,
      evaluate known text = answered (Query.evaluate known text) ∧
      relation known text.toList = answered (Query.relation known text.toList)) ∧
    (∀ text,
      projection text = answered (Query.projection text) ∧
      literalSelect text = answered (Query.literalSelect text) ∧
      literal text = answered (Query.literal text) ∧
      starOperand text = some (Query.starOperand text) ∧
      castOperand text = some (Query.castOperand text) ∧
      ∀ keyword ∈ keywords, stripKeyword keyword text = some (dropKeyword keyword text)) ∧
    (∀ text operand, castOperand text = some (some operand) → operand.length < text.length) ∧
    (∀ text inside, starOperand (trim text) = some (some inside) → inside.length < text.length) ∧
    (∀ s ∈ Separator.all, ∀ text,
      splitTopLevel s text = some (s.split text) ∧ ∃ offsets, Offsets s text offsets) ∧
    ∀ text, ∃ close, matchingParen text = some close ∧ ∀ offset ∈ close,
      1 ≤ offset ∧ IsBorder text 1 ∧ IsBorder text offset ∧ IsBorder text (offset + 1) := by
  refine ⟨execute_eq m sql, fun known text => ?_, fun text => ?_,
    fun text operand => length_of_castOperand, fun text inside star => ?_,
    fun s listed text => ?_, exists_matchingParen⟩
  · exact ⟨evaluate_eq known text, relation_eq known text.toList⟩
  · exact ⟨projection_eq text, literalSelect_eq text, literal_eq text, starOperand_eq text,
      castOperand_eq text, fun keyword listed => stripKeyword_word listed text⟩
  · exact Nat.lt_of_lt_of_le (length_of_starOperand star) (trim_length_le text)
  · exact ⟨splitTopLevel_eq listed text, exists_offsets listed text⟩

end ModelBench.Query.ByOffset
