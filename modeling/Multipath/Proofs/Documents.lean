import Multipath.Proofs.Numerals
import Multipath.Toml.Writer

/-! # A written document is read as its items

Reading goes the way that writing went. An unquoted value is a `Run`, which is taken whole up to the
mark behind it; a list is read item by item, a line is a statement (`statement_line`), and the
statements of a document build the table of its items (`parse?_render`). All of this is for an item
that can be read at all (`Item.Legible`): that a number reads back is a fact of its own.
-/

namespace Multipath.Toml

/-! ## Values -/

theorem inRun_of_isDigit {c : Char} (digit : c.isDigit = true) : inRun c = true := by
  have apart : ∀ d : Char, d.isDigit = false → c ≠ d := fun d => Decimal.ne_of_isDigit digit
  simp [inRun, isBlank, apart]

/-- A text that is read as one unquoted value. -/
structure Run (cs : List Char) : Prop where
  some_ : cs ≠ []
  inside : ∀ c ∈ cs, inRun c = true
  unquoted : ∀ c ∈ cs.head?, c ≠ '"' ∧ c ≠ '\x27'

/-- Ends an unquoted value. -/
abbrev Stops (c : Char) : Prop := inRun c = false ∧ isBlank c = false

theorem unquoted_append {cs : List Char} (inside : ∀ c ∈ cs, inRun c = true) {stop : Char}
    (stops : Stops stop) (rest : List Char) :
    unquoted (cs ++ stop :: rest) = (cs, stop :: rest) := by
  induction cs with
  | nil => simp [unquoted, stops.1, stops.2]
  | cons c cs ih =>
      have first := inside c List.mem_cons_self
      have others := ih fun d mem => inside d (List.mem_cons_of_mem c mem)
      simp [unquoted, first, others]

namespace Run

variable {cs : List Char} {stop : Char}

theorem flat (run : Run cs) (stops : Stops stop) (rest : List Char) :
    flat (cs ++ stop :: rest) = (scalar? cs).map (·, stop :: rest) := by
  have plain : quoted (cs ++ stop :: rest) = none := by
    obtain ⟨some_, -, head⟩ := run
    cases cs with
    | nil => exact absurd rfl some_
    | cons c cs =>
        obtain ⟨double, single⟩ := head c rfl
        rw [List.cons_append]
        unfold quoted
        split <;> simp_all
  rw [Toml.flat, plain, unquoted_append run.inside stops]

theorem value (run : Run cs) {node : Node} (read : scalar? cs = some node) (stops : Stops stop)
    (rest : List Char) (depth : Nat) :
    value depth (cs ++ stop :: rest) = some (node, stop :: rest) := by
  have taken : Toml.flat (cs ++ stop :: rest) = some (node, stop :: rest) := by
    rw [run.flat stops, read]
    rfl
  cases depth with
  | zero => exact taken
  | succ depth =>
      obtain ⟨some_, inside, -⟩ := run
      cases cs with
      | nil => exact absurd rfl some_
      | cons c cs =>
          have first := inside c List.mem_cons_self
          rw [List.cons_append] at taken ⊢
          unfold Toml.value
          split
          · rename_i opens
            obtain ⟨rfl, -⟩ := List.cons.inj opens
            exact absurd first (by decide)
          · rename_i opens
            obtain ⟨rfl, -⟩ := List.cons.inj opens
            exact absurd first (by decide)
          · exact taken

end Run

/-! ## Lists -/

section Lists

variable {α : Type} {render : α → String} {node : α → Node} {xs : List α}

/-- The value is written as a run that is read as its node. -/
structure Reads (text : String) (node : Node) : Prop where
  run : Run text.toList
  read : scalar? text.toList = some node

theorem skipTrivia_run {cs : List Char} (run : Run cs) (rest : List Char) :
    skipTrivia false (cs ++ rest) = cs ++ rest := by
  obtain ⟨some_, inside, -⟩ := run
  cases cs with
  | nil => exact absurd rfl some_
  | cons c cs =>
      have first := inside c List.mem_cons_self
      simp only [inRun, Bool.not_eq_true', Bool.or_eq_false_iff, decide_eq_false_iff_not] at first
      simp [skipTrivia, first]

/-- An item with a comma behind it, and then the others. -/
theorem items_cons {text : String} {item : Node} (reads : Reads text item) {cs rest : List Char}
    (starts : skipTrivia false cs = text.toList ++ ',' :: rest) (depth fuel : Nat)
    {others : List Node} {rest' : List Char}
    (follow : items (value depth) ']' fuel rest = some (others, rest')) :
    items (value depth) ']' (fuel + 1) cs = some (item :: others, rest') := by
  obtain ⟨run, read⟩ := reads
  have stops : Stops ',' := by decide
  have taken := run.value read stops rest depth
  rw [items, starts]
  obtain ⟨some_, inside, -⟩ := run
  cases chars : text.toList with
  | nil => exact absurd chars some_
  | cons c tail =>
      have first : c ≠ ']' := by
        rintro rfl
        exact absurd (inside ']' (chars ▸ List.mem_cons_self)) (by decide)
      rw [chars] at taken
      rw [List.cons_append] at taken ⊢
      simp [first, taken, skipTrivia, isBlank, follow]

/-- The lines of a list, one for each item, up to its end. -/
theorem items_lines (reads : ∀ x ∈ xs, Reads (render x) (node x)) (depth : Nat) (rest : List Char)
    {fuel : Nat} (enough : xs.length < fuel) :
    items (value depth) ']' fuel
        ('\n' :: (String.join (xs.map fun x => "    " ++ render x ++ ",\n")).toList ++ ']' :: rest) =
      some (xs.map node, rest) := by
  induction xs generalizing fuel with
  | nil =>
      obtain ⟨fuel, rfl⟩ := Nat.exists_eq_succ_of_ne_zero (Nat.ne_of_gt enough)
      rfl
  | cons x xs ih =>
      obtain ⟨fuel, rfl⟩ := Nat.exists_eq_succ_of_ne_zero (Nat.ne_of_gt (Nat.zero_lt_of_lt enough))
      have first := reads x List.mem_cons_self
      have others := ih (fun y mem => reads y (List.mem_cons_of_mem x mem))
        (Nat.lt_of_succ_lt_succ enough)
      refine items_cons first ?_ depth fuel others
      have shown := skipTrivia_run first.run (',' :: '\n' ::
        (String.join (xs.map fun x => "    " ++ render x ++ ",\n")).toList ++ ']' :: rest)
      simpa [skipTrivia, isBlank] using shown

/-- The only item of a list. -/
theorem items_single {text : String} {item : Node} (reads : Reads text item) (depth fuel : Nat)
    (rest : List Char) :
    items (value depth) ']' (fuel + 1) (text.toList ++ ']' :: rest) = some ([item], rest) := by
  obtain ⟨run, read⟩ := reads
  have stops : Stops ']' := by decide
  have taken := run.value read stops rest depth
  rw [items, skipTrivia_run run]
  obtain ⟨some_, inside, -⟩ := run
  cases chars : text.toList with
  | nil => exact absurd chars some_
  | cons c tail =>
      have first : c ≠ ']' := by
        rintro rfl
        exact absurd (inside ']' (chars ▸ List.mem_cons_self)) (by decide)
      rw [chars] at taken
      rw [List.cons_append] at taken ⊢
      simp [first, taken, skipTrivia, isBlank]

theorem length_le_lines (xs : List α) (render : α → String) :
    xs.length ≤ (String.join (xs.map fun x => "    " ++ render x ++ ",\n")).toList.length := by
  induction xs with
  | nil => exact Nat.zero_le _
  | cons x xs ih =>
      simp only [List.map_cons, String.join_cons, String.toList_append, List.length_append,
        List.length_cons] at ih ⊢
      have line : (",\n" : String).toList.length = 2 := rfl
      omega

theorem value_list {depth : Nat} {cs rest : List Char} {nodes : List Node}
    (listed : listOf (value depth) ']' cs = some (nodes, rest)) :
    value (depth + 1) ('[' :: cs) = some (.array nodes, rest) := by
  simp only [value, listed, Option.map_some]

theorem value_renderList (reads : ∀ x ∈ xs, Reads (render x) (node x)) (depth : Nat)
    (rest : List Char) :
    value (depth + 1) ((renderList (xs.map render)).toList ++ rest) =
      some (.array (xs.map node), rest) := by
  match xs with
  | [] =>
      have text : (renderList (List.map render [])).toList ++ rest = '[' :: ']' :: rest := by
        simp [renderList]
      rw [text]
      exact value_list rfl
  | [x] =>
      have text : (renderList ([x].map render)).toList ++ rest =
          '[' :: ((render x).toList ++ ']' :: rest) := by simp [renderList]
      rw [text]
      exact value_list (items_single (reads x List.mem_cons_self) depth _ rest)
  | x :: y :: xs =>
      have text : (renderList ((x :: y :: xs).map render)).toList ++ rest =
          '[' :: ('\n' :: (String.join ((x :: y :: xs).map fun x =>
            "    " ++ render x ++ ",\n")).toList ++ ']' :: rest) := by
        simp [renderList, Function.comp_def]
      rw [text]
      refine value_list (items_lines reads depth rest ?_)
      have long := length_le_lines (x :: y :: xs) render
      simp only [List.length_append, List.length_cons] at long ⊢
      omega

end Lists

/-! ## Items -/

theorem reads_toString {n : Nat} (small : n < UInt64.size) : Reads (toString n) (.integer n) := by
  have chars : (toString n).toList = Nat.toDigits 10 n := by
    rw [Nat.toString_eq_ofList_toDigits, String.toList_ofList]
  refine ⟨⟨?_, fun c mem => ?_, fun c mem => ?_⟩, ?_⟩
  · rw [chars]
    exact Nat.toDigits_ne_nil
  · exact inRun_of_isDigit (Decimal.isDigit_of_mem (chars ▸ mem))
  · have digit : c.isDigit = true := Decimal.isDigit_of_mem (chars ▸ List.mem_of_mem_head? mem)
    exact ⟨Decimal.ne_of_isDigit digit rfl, Decimal.ne_of_isDigit digit rfl⟩
  · rw [chars]
    exact scalar?_toDigits small

/-- The double is read back from its text. -/
def ReadsBack (x : Float) : Prop := Reads (layout.render x) (.real x)

def Item.doubles : Item → List Float
  | .real x => [x]
  | .reals xs => xs
  | _ => []

/-- The item is read back from its text. -/
def Item.Legible : Item → Prop
  | .integer n => n < UInt64.size
  | .real x => ReadsBack x
  | .flag _ => True
  | .reals xs => ∀ x ∈ xs, ReadsBack x

theorem reads_flag (b : Bool) : Reads (Item.flag b).render (.flag b) := by
  cases b with
  | false =>
      have run : Run ['f', 'a', 'l', 's', 'e'] := ⟨by simp, by simp [inRun, isBlank], by simp⟩
      exact ⟨run, rfl⟩
  | true =>
      have run : Run ['t', 'r', 'u', 'e'] := ⟨by simp, by simp [inRun, isBlank], by simp⟩
      exact ⟨run, rfl⟩

/-- The mark that ends a line ends a value. -/
theorem Item.value_render {item : Item} (legible : item.Legible) (depth : Nat) (rest : List Char) :
    value (depth + 1) (item.render.toList ++ '\n' :: rest) = some (item.node, '\n' :: rest) := by
  have scalar : ∀ {text node}, Reads text node →
      value (depth + 1) (text.toList ++ '\n' :: rest) = some (node, '\n' :: rest) :=
    fun reads => reads.run.value reads.read (by decide) rest (depth + 1)
  cases item with
  | integer n => exact scalar (reads_toString legible)
  | real x => exact scalar legible
  | flag b => exact scalar (reads_flag b)
  | reals xs => exact value_renderList legible depth ('\n' :: rest)

/-- No blank stands in front of a value. -/
theorem Item.skipBlank_render {item : Item} (legible : item.Legible) (rest : List Char) :
    skipBlank (item.render.toList ++ rest) = item.render.toList ++ rest := by
  have started : ∀ {cs : List Char}, (∃ c tail, cs = c :: tail ∧ isBlank c = false) →
      skipBlank (cs ++ rest) = cs ++ rest := by
    rintro _ ⟨c, tail, rfl, solid⟩
    simp [skipBlank, solid]
  have scalar : ∀ {text : String} {node}, Reads text node →
      skipBlank (text.toList ++ rest) = text.toList ++ rest := by
    rintro text node ⟨⟨some_, inside, -⟩, -⟩
    refine started ?_
    cases chars : text.toList with
    | nil => exact absurd chars some_
    | cons c tail =>
        have first := inside c (chars ▸ List.mem_cons_self)
        simp only [inRun, Bool.not_eq_true', Bool.or_eq_false_iff] at first
        exact ⟨c, tail, rfl, by simp [first]⟩
  cases item with
  | integer n => exact scalar (reads_toString legible)
  | real x => exact scalar legible
  | flag b => exact scalar (reads_flag b)
  | reals xs =>
      refine started ?_
      match xs with
      | [] => exact ⟨'[', _, rfl, rfl⟩
      | [x] => exact ⟨'[', (layout.render x).toList ++ [']'], by simp [Item.render, renderList], rfl⟩
      | x :: y :: xs => exact ⟨'[', _, by simp [Item.render, renderList]; rfl, rfl⟩

/-! ## Lines -/

/-- A name that stands in a key without quotes. -/
structure Bare (label : String) : Prop where
  some_ : label.toList ≠ []
  plain : ∀ c ∈ label.toList, isBare c = true

instance : DecidablePred Bare := fun label =>
  decidable_of_iff ((!label.toList.isEmpty && label.toList.all isBare) = true)
    ⟨fun all => ⟨by simp_all, by simp_all⟩, fun ⟨some_, plain⟩ => by simp_all⟩

namespace Bare

variable {label : String} {stop : Char} {rest : List Char}

theorem starts (bare : Bare label) : ∃ c tail, label.toList = c :: tail ∧ isBare c = true := by
  cases chars : label.toList with
  | nil => exact absurd chars bare.some_
  | cons c tail => exact ⟨c, tail, rfl, bare.plain c (chars ▸ List.mem_cons_self)⟩

theorem name (bare : Bare label) (stops : isBare stop = false) (rest : List Char) :
    name (label.toList ++ stop :: rest) = some (label, stop :: rest) := by
  have taken : (label.toList ++ stop :: rest).takeWhile isBare = label.toList := by
    rw [List.takeWhile_append_of_pos bare.plain]
    simp [stops]
  have left : (label.toList ++ stop :: rest).dropWhile isBare = stop :: rest := by
    rw [List.dropWhile_append_of_pos bare.plain]
    simp [stops]
  have filled : label.toList.isEmpty = false := by
    rw [List.isEmpty_eq_false_iff]
    exact bare.some_
  obtain ⟨c, tail, chars, first⟩ := bare.starts
  unfold Toml.name
  split
  · rename_i opens
    rw [chars] at opens
    obtain ⟨rfl, -⟩ := List.cons.inj opens
    exact absurd first (by decide)
  · rename_i opens
    rw [chars] at opens
    obtain ⟨rfl, -⟩ := List.cons.inj opens
    exact absurd first (by decide)
  · simp only [taken, left, filled, String.ofList_toList]
    rfl

/-- One name, and no point behind it. -/
theorem key (bare : Bare label) (stops : isBare stop = false)
    (last : (skipBlank (stop :: rest)).head? ≠ some '.') :
    key (label.toList ++ stop :: rest) = some ([label], skipBlank (stop :: rest)) := by
  unfold Toml.key maxNames dottedKey
  rw [bare.name stops]
  simp only [bind, Option.bind]
  split
  · rename_i point
    rw [point] at last
    exact absurd rfl last
  · rfl

/-- The first character of a name is none that means something elsewhere. -/
theorem starts_apart (bare : Bare label) :
    ∃ c tail, label.toList = c :: tail ∧ ∀ d : Char, isBare d = false → c ≠ d := by
  obtain ⟨c, tail, chars, first⟩ := bare.starts
  refine ⟨c, tail, chars, ?_⟩
  rintro d other rfl
  rw [first] at other
  cases other

theorem skipBlank (bare : Bare label) (rest : List Char) :
    skipBlank (label.toList ++ rest) = label.toList ++ rest := by
  obtain ⟨c, tail, chars, apart⟩ := bare.starts_apart
  have solid : isBlank c = false := by simp [isBlank, apart ' ' rfl, apart '\t' rfl]
  rw [chars]
  simp [Toml.skipBlank, solid]

theorem skipTrivia (bare : Bare label) (rest : List Char) :
    skipTrivia false (label.toList ++ rest) = label.toList ++ rest := by
  obtain ⟨c, tail, chars, apart⟩ := bare.starts_apart
  rw [chars]
  simp [Toml.skipTrivia, isBlank, apart ' ' rfl, apart '\t' rfl, apart '\n' rfl, apart '\r' rfl,
    apart '#' rfl]

end Bare

/-! ## Lines -/

/-- One item, as it stands on its line. -/
def line (pair : String × Item) : String := pair.1 ++ " = " ++ pair.2.render ++ "\n"

theorem line_append (pair : String × Item) (rest : List Char) :
    (line pair).toList ++ rest =
      pair.1.toList ++ ' ' :: '=' :: ' ' :: (pair.2.render.toList ++ '\n' :: rest) := by
  simp [line]

theorem pair_line {label : String} {item : Item} (bare : Bare label) (legible : item.Legible)
    (rest : List Char) :
    pair skipBlank (value maxDepth)
        (label.toList ++ ' ' :: '=' :: ' ' :: (item.render.toList ++ '\n' :: rest)) =
      some (([label], item.node), '\n' :: rest) := by
  generalize chars : item.render.toList ++ '\n' :: rest = text
  have ends : isBare ' ' = false := rfl
  have last : (skipBlank (' ' :: '=' :: ' ' :: text)).head? ≠ some '.' := by
    simp [skipBlank, isBlank]
  have named := bare.key ends last
  have equals : skipBlank (skipBlank (' ' :: '=' :: ' ' :: text)) = '=' :: ' ' :: text := rfl
  have start : skipBlank (' ' :: text) = text := chars ▸ item.skipBlank_render legible ('\n' :: rest)
  have taken : value maxDepth text = some (item.node, '\n' :: rest) :=
    chars ▸ item.value_render legible 79 rest
  simp only [pair, named, bind, Option.bind, equals, start, taken]

theorem statement_line {pair : String × Item} (bare : Bare pair.1) (legible : pair.2.Legible)
    (rest : List Char) :
    statement ((line pair).toList ++ rest) =
      some (.assign [pair.1] pair.2.node, '\n' :: rest) := by
  obtain ⟨c, tail, chars, apart⟩ := bare.starts_apart
  rw [line_append]
  have read := pair_line bare legible rest
  rw [chars, List.cons_append] at read ⊢
  unfold statement
  split
  · rename_i opens
    exact absurd (List.cons.inj opens).1 (apart '[' rfl)
  · rename_i opens
    exact absurd (List.cons.inj opens).1 (apart '[' rfl)
  · rw [read]
    rfl

theorem statement_header {label : String} (bare : Bare label) (rest : List Char) :
    statement ('[' :: (label.toList ++ ']' :: rest)) = some (.header [label], rest) := by
  have start := bare.skipBlank (']' :: rest)
  have ends : isBare ']' = false := rfl
  have last : (skipBlank (']' :: rest)).head? ≠ some '.' := by simp [skipBlank, isBlank]
  have named := bare.key ends last
  have closes : skipBlank (']' :: rest) = ']' :: rest := rfl
  obtain ⟨c, tail, chars, apart⟩ := bare.starts_apart
  rw [closes] at named
  rw [chars, List.cons_append] at start named ⊢
  unfold statement
  split
  · rename_i opens
    exact absurd (List.cons.inj (List.cons.inj opens).2).1 (apart '[' rfl)
  · rename_i opens
    obtain ⟨-, rfl⟩ := List.cons.inj opens
    simp only [start, named, bind, Option.bind]
  · rename_i opens
    exact absurd rfl (opens _)

/-- However much fuel there is, if it is a step for each character, the text is read as these
statements. -/
def Spells (cs : List Char) (statements : List Statement) : Prop :=
  ∀ fuel, cs.length < fuel → statementsOf fuel cs = some statements

namespace Spells

theorem nil : Spells [] [] := by
  intro fuel enough
  obtain ⟨fuel, rfl⟩ := Nat.exists_eq_succ_of_ne_zero (Nat.ne_of_gt enough)
  rfl

/-- One more statement in front. -/
theorem cons {cs cs' rest : List Char} {first : Statement} {others : List Statement}
    (starts : skipTrivia false cs = cs') (some_ : cs' ≠ [])
    (read : statement cs' = some (first, '\n' :: rest)) (shorter : rest.length < cs.length)
    (spells : Spells rest others) : Spells cs (first :: others) := by
  intro fuel enough
  obtain ⟨fuel, rfl⟩ := Nat.exists_eq_succ_of_ne_zero (Nat.ne_of_gt (Nat.zero_lt_of_lt enough))
  have ended : lineEnd ('\n' :: rest) = some rest := rfl
  rw [statementsOf, starts]
  cases cs' with
  | nil => exact absurd rfl some_
  | cons c tail =>
      have follow := spells fuel (by omega)
      simp only [read, ended, bind, Option.bind, follow]

theorem line {pair : String × Item} (bare : Bare pair.1) (legible : pair.2.Legible)
    {rest : List Char} {others : List Statement} (spells : Spells rest others) :
    Spells ((line pair).toList ++ rest) (.assign [pair.1] pair.2.node :: others) := by
  have starts : skipTrivia false ((Toml.line pair).toList ++ rest) =
      (Toml.line pair).toList ++ rest := by
    rw [line_append]
    exact bare.skipTrivia _
  refine cons starts ?_ (statement_line bare legible rest) ?_ spells
  · simp [Toml.line]
  · simp [Toml.line]
    omega

theorem pairs {pairs : List (String × Item)} (ok : ∀ p ∈ pairs, Bare p.1 ∧ p.2.Legible)
    {rest : List Char} {others : List Statement} (spells : Spells rest others) :
    Spells ((renderPairs pairs).toList ++ rest)
      (pairs.map (fun p => .assign [p.1] p.2.node) ++ others) := by
  induction pairs with
  | nil => exact spells
  | cons p pairs ih =>
      have first := ok p List.mem_cons_self
      have later := ih fun q mem => ok q (List.mem_cons_of_mem p mem)
      have text : (renderPairs (p :: pairs)).toList ++ rest =
          (Toml.line p).toList ++ ((renderPairs pairs).toList ++ rest) := by
        simp [renderPairs, Toml.line]
      rw [text]
      exact line first.1 first.2 later

theorem header {label : String} (bare : Bare label) {rest : List Char} {others : List Statement}
    (spells : Spells rest others) :
    Spells ('\n' :: '[' :: (label.toList ++ ']' :: '\n' :: rest)) (.header [label] :: others) := by
  refine cons rfl ?_ (statement_header bare ('\n' :: rest)) ?_ spells
  · exact List.cons_ne_nil _ _
  · simp
    omega

end Spells

/-! ## Tables -/

/-- What items are read as. -/
def entries (pairs : List (String × Item)) : Table := pairs.map fun p => (p.1, p.2.node)

def assignments (pairs : List (String × Item)) : List Statement :=
  pairs.map fun p => .assign [p.1] p.2.node

namespace Table

variable {t inner : Table} {label : String} {node : Node} {pairs : List (String × Item)}
  {others : List Statement}

theorem lookup_eq_none (fresh : label ∉ t.map Prod.fst) : t.lookup label = none := by
  rw [List.lookup_eq_none_iff]
  intro entry mem
  rw [bne_iff_ne]
  rintro rfl
  exact fresh (List.mem_map_of_mem mem)

theorem put_fresh (fresh : label ∉ t.map Prod.fst) (node : Node) :
    put label node t = some (t ++ [(label, node)]) := by
  rw [put, lookup_eq_none fresh]
  rfl

/-- Items whose names are new go to the end of the document. -/
theorem run_pairs (apart : (t.map Prod.fst ++ pairs.map Prod.fst).Nodup) :
    run (assignments pairs ++ others) [] t = run others [] (t ++ entries pairs) := by
  induction pairs generalizing t with
  | nil => simp [assignments, entries]
  | cons p pairs ih =>
      have fresh : p.1 ∉ t.map Prod.fst := by
        intro mem
        exact (List.nodup_append.1 apart).2.2 p.1 mem p.1 List.mem_cons_self rfl
      have later := ih (t := t ++ [(p.1, p.2.node)]) (by simpa using apart)
      have first : inSection (define [p.1] p.2.node) [] t = some (t ++ [(p.1, p.2.node)]) :=
        put_fresh fresh p.2.node
      simp only [assignments, entries, List.map_cons, List.cons_append, run, first, bind, Option.bind]
        at later ⊢
      rw [later, List.append_assoc]
      rfl

theorem lookup_last (fresh : label ∉ t.map Prod.fst) (node : Node) :
    (t ++ [(label, node)]).lookup label = some node := by
  rw [List.lookup_append, lookup_eq_none fresh]
  simp

theorem replace_last (fresh : label ∉ t.map Prod.fst) (node node' : Node) :
    (t ++ [(label, node)]).replace label node' = t ++ [(label, node')] := by
  have same : t.map (fun entry => if entry.1 = label then (label, node') else entry) = t := by
    refine (List.map_congr_left fun entry mem => ?_).trans (List.map_id t)
    have other : entry.1 ≠ label := by
      rintro rfl
      exact fresh (List.mem_map_of_mem mem)
    rw [if_neg other]
    rfl
  rw [replace, List.map_append, same]
  simp

/-- Items whose names are new go to the end of the section that is open. -/
theorem run_section_pairs (fresh : label ∉ t.map Prod.fst)
    (apart : (inner.map Prod.fst ++ pairs.map Prod.fst).Nodup) :
    run (assignments pairs ++ others) [label] (t ++ [(label, .table .header inner)]) =
      run others [label] (t ++ [(label, .table .header (inner ++ entries pairs))]) := by
  induction pairs generalizing inner with
  | nil => simp [assignments, entries]
  | cons p pairs ih =>
      have first : inSection (define [p.1] p.2.node) [label]
          (t ++ [(label, .table .header inner)]) =
            some (t ++ [(label, .table .header (inner ++ [(p.1, p.2.node)]))]) := by
        have new : p.1 ∉ inner.map Prod.fst := by
          intro mem
          exact (List.nodup_append.1 apart).2.2 p.1 mem p.1 List.mem_cons_self rfl
        have added : define [p.1] p.2.node inner = some (inner ++ [(p.1, p.2.node)]) :=
          put_fresh new p.2.node
        have way : ¬ Origin.header = .inline := by decide
        simp only [inSection, lookup_last fresh, way, if_false, added, bind, Option.bind,
          replace_last fresh]
      have later := @ih (inner ++ [(p.1, p.2.node)]) (by simpa using apart)
      simp only [assignments, entries, List.map_cons, List.cons_append, run, first, bind, Option.bind]
        at later ⊢
      rw [later, List.append_assoc]
      rfl

/-- A section whose name is new goes to the end of the document. -/
theorem run_section (fresh : label ∉ t.map Prod.fst) (apart : (pairs.map Prod.fst).Nodup)
    (path : List String) :
    run (.header [label] :: (assignments pairs ++ others)) path t =
      run others [label] (t ++ [(label, .table .header (entries pairs))]) := by
  have opened : openHeader [label] giveHeader t = some (t ++ [(label, .table .header [])]) := by
    simp [openHeader, inSection, giveHeader, lookup_eq_none fresh]
  have filled : run (assignments pairs ++ others) [label] (t ++ [(label, .table .header [])]) =
      run others [label] (t ++ [(label, .table .header (entries pairs))]) :=
    run_section_pairs fresh apart
  simp only [run, opened, bind, Option.bind]
  exact filled

end Table

/-! ## Documents -/

/-- A section with its items. -/
abbrev Chapter := String × List (String × Item)

/-- Items that stand in one table. -/
structure WellFormed (pairs : List (String × Item)) : Prop where
  bare : ∀ p ∈ pairs, Bare p.1
  legible : ∀ p ∈ pairs, p.2.Legible
  apart : (pairs.map Prod.fst).Nodup

def chapterStatements (chapters : List Chapter) : List Statement :=
  chapters.flatMap fun c => .header [c.1] :: assignments c.2

def chapterEntries (chapters : List Chapter) : Table :=
  chapters.map fun c => (c.1, .table .header (entries c.2))

def renderChapters (chapters : List Chapter) : String :=
  String.join (chapters.map fun c => renderSection c.1 c.2)

section Documents

variable {chapters : List Chapter}

theorem spells_chapters
    (ok : ∀ c ∈ chapters, Bare c.1 ∧ WellFormed c.2) :
    Spells (renderChapters chapters).toList (chapterStatements chapters) := by
  induction chapters with
  | nil => exact .nil
  | cons c chapters ih =>
      obtain ⟨bare, formed⟩ := ok c List.mem_cons_self
      have later := ih fun d mem => ok d (List.mem_cons_of_mem c mem)
      have text : (renderChapters (c :: chapters)).toList =
          '\n' :: '[' :: (c.1.toList ++ ']' :: '\n' ::
            ((renderPairs c.2).toList ++ (renderChapters chapters).toList)) := by
        simp [renderChapters, renderSection]
      rw [text]
      exact .header bare (.pairs (fun p mem => ⟨formed.bare p mem, formed.legible p mem⟩) later)

theorem Table.run_chapters (formed : ∀ c ∈ chapters, WellFormed c.2) {t : Table}
    (apart : (t.map Prod.fst ++ chapters.map Prod.fst).Nodup) (path : List String) :
    run (chapterStatements chapters) path t = some (t ++ chapterEntries chapters) := by
  induction chapters generalizing t path with
  | nil => simp [chapterStatements, chapterEntries, run]
  | cons c chapters ih =>
      have fresh : c.1 ∉ t.map Prod.fst := by
        intro mem
        exact (List.nodup_append.1 apart).2.2 c.1 mem c.1 List.mem_cons_self rfl
      have later := ih (t := t ++ [(c.1, .table .header (entries c.2))])
        (fun d mem => formed d (List.mem_cons_of_mem c mem)) (by simpa using apart) [c.1]
      have statements : chapterStatements (c :: chapters) =
          .header [c.1] :: (assignments c.2 ++ chapterStatements chapters) := rfl
      rw [statements, run_section fresh (formed c List.mem_cons_self).apart, later,
        List.append_assoc]
      rfl

/-- No mark of the byte order is written. -/
theorem dropMark_render {top : List (String × Item)} (bare : ∀ p ∈ top, Bare p.1)
    (chapters : List Chapter) :
    dropMark (renderPairs top ++ renderChapters chapters).toList =
      (renderPairs top ++ renderChapters chapters).toList := by
  have unmarked : ∀ {cs : List Char}, cs.head? ≠ some '\uFEFF' → dropMark cs = cs := by
    intro cs other
    unfold dropMark
    split
    · exact absurd rfl other
    · rfl
  refine unmarked ?_
  match top with
  | p :: top =>
      obtain ⟨c, tail, chars, apart⟩ := (bare p List.mem_cons_self).starts_apart
      simpa [renderPairs, chars] using apart '\uFEFF' rfl
  | [] =>
      cases chapters with
      | nil => decide
      | cons c chapters => simp [renderPairs, renderChapters, renderSection]

/-- A document that is written is read as its items, those above all sections first. -/
theorem parse?_render {top : List (String × Item)} (topFormed : WellFormed top)
    (ok : ∀ c ∈ chapters, Bare c.1 ∧ WellFormed c.2)
    (apart : (top.map Prod.fst ++ chapters.map Prod.fst).Nodup) :
    parse? (renderPairs top ++ renderChapters chapters) =
      some (entries top ++ chapterEntries chapters) := by
  have spells : Spells (renderPairs top ++ renderChapters chapters).toList
      (assignments top ++ chapterStatements chapters) := by
    rw [String.toList_append]
    exact .pairs (fun p mem => ⟨topFormed.bare p mem, topFormed.legible p mem⟩) (spells_chapters ok)
  have statements := spells _ (Nat.lt_succ_self _)
  have ran : Table.run (assignments top ++ chapterStatements chapters) [] [] =
      Table.run (chapterStatements chapters) [] (entries top) := Table.run_pairs topFormed.apart
  have keys : ((entries top).map Prod.fst ++ chapters.map Prod.fst).Nodup := by
    rw [entries, List.map_map]
    exact apart
  have built := Table.run_chapters (fun c mem => (ok c mem).2) keys []
  simp only [parse?, statements?, dropMark_render topFormed.bare, statements, bind, Option.bind]
  exact ran.trans built

end Documents

end Multipath.Toml
