import Multipath.Proofs.Points
import Multipath.Proofs.Written

/-! # What is saved can be loaded

Saving writes every field of the settings into a table, loading reads every entry of the table into
its field. A field is found again by its key (`keys_apart`), and its value by `Field.read_item`.
Reading starts from the defaults, so it must end at the settings: `copied_eq` says that no field is
missing from the lists, and that none gets another's value. A double that is no number is the only
value that could be lost.
-/

namespace Multipath

/-- A member of a list is found by what tells it from the others. -/
theorem find?_of_nodup {α : Type} {l : List α} {name : α → String} (apart : (l.map name).Nodup) {a : α}
    (mem : a ∈ l) : l.find? (name · = name a) = some a := by
  induction l with
  | nil => cases mem
  | cons b rest ih =>
      rw [List.map_cons, List.nodup_cons] at apart
      rcases List.mem_cons.1 mem with rfl | later
      · simp
      · have different : name b ≠ name a := fun same => apart.1 (same ▸ List.mem_map_of_mem later)
        rw [List.find?_cons_of_neg (by simpa using different)]
        exact ih apart.2 later

section Folds

variable {α β ε : Type} {l : List α} {f : β → α → Except ε β}

theorem foldlM_congr {f' : β → α → Except ε β} (same : ∀ a ∈ l, ∀ b, f b a = f' b a) {b : β} :
    l.foldlM f b = l.foldlM f' b := by
  induction l generalizing b with
  | nil => rfl
  | cons a rest ih =>
      rw [List.foldlM_cons, List.foldlM_cons, same a List.mem_cons_self b]
      exact congrArg _ (funext fun b => ih fun c mem => same c (List.mem_cons_of_mem a mem))

theorem foldlM_eq_ok {g : β → α → β} (step : ∀ a ∈ l, ∀ b, f b a = .ok (g b a)) {b : β} :
    l.foldlM f b = .ok (l.foldl g b) := by
  induction l generalizing b with
  | nil => rfl
  | cons a rest ih =>
      rw [List.foldlM_cons, step a List.mem_cons_self b]
      exact ih fun c mem => step c (List.mem_cons_of_mem a mem)

theorem foldlM_append_ok {l' : List α} {b b' b'' : β} (first : l.foldlM f b = .ok b')
    (second : l'.foldlM f b' = .ok b'') : (l ++ l').foldlM f b = .ok b'' := by
  rw [List.foldlM_append, first]
  exact second

end Folds

namespace Field

variable {σ : Type}

/-- What is written of the field in one value goes into another. -/
def copy (field : Field σ) (s t : σ) : σ :=
  match field with
  | count _ get set => set (get s) t
  | word _ get set => set (get s) t
  | optionalWord _ get set => match get s with
    | some n => set (some n) t
    | none => t
  | real _ get set => set (get s) t
  | reals _ get set => set (get s) t
  | flag _ get set => set (get s) t

theorem natural?_of_lt {n bound : Nat} (small : n < bound) : natural? bound (.integer n) = some n := by
  simp [natural?, small]

theorem mapM_real? (xs : List Float) : (xs.map Toml.Node.real).mapM real? = some xs := by
  induction xs with
  | nil => rfl
  | cons x xs ih => simp [ih, real?]

/-- What is written of a field is read back into its place. -/
theorem read_item {field : Field σ} {s : σ} {pair : String × Toml.Item}
    (written : field.item s = some pair) (t : σ) :
    pair.1 = field.key ∧ field.read pair.2.node t = some (field.copy s t) := by
  cases field with
  | count key get set =>
      cases written
      have small : (get s).toNat < UInt32.size := (get s).toNat_lt
      exact ⟨rfl, by simp [read, copy, Toml.Item.node, natural?_of_lt small]⟩
  | word key get set =>
      cases written
      have small : (get s).toNat < UInt64.size := (get s).toNat_lt
      exact ⟨rfl, by simp [read, copy, Toml.Item.node, natural?_of_lt small]⟩
  | optionalWord key get set =>
      cases there : get s with
      | none => simp [item, there] at written
      | some n =>
          have small : n.toNat < UInt64.size := n.toNat_lt
          obtain rfl : (key, .integer n.toNat) = pair := by simpa [item, there] using written
          exact ⟨rfl, by simp [read, copy, there, Toml.Item.node, natural?_of_lt small]⟩
  | real key get set =>
      cases written
      exact ⟨rfl, rfl⟩
  | reals key get set =>
      cases written
      exact ⟨rfl, by simp only [read, copy, Toml.Item.node, mapM_real?, Option.map_some]⟩
  | flag key get set =>
      cases written
      exact ⟨rfl, rfl⟩

/-- Whole numbers and truth values are always legible. -/
theorem item_legible {field : Field σ} {s : σ} {pair : String × Toml.Item}
    (written : field.item s = some pair) (back : ∀ x ∈ pair.2.doubles, Toml.ReadsBack x) :
    pair.2.Legible := by
  cases field with
  | count key get set =>
      cases written
      exact Nat.lt_trans (get s).toNat_lt (by decide)
  | word key get set =>
      cases written
      exact (get s).toNat_lt
  | optionalWord key get set =>
      cases there : get s with
      | none => simp [item, there] at written
      | some n =>
          obtain rfl : (key, .integer n.toNat) = pair := by simpa [item, there] using written
          exact n.toNat_lt
  | real key get set =>
      cases written
      exact back _ List.mem_cons_self
  | reals key get set =>
      cases written
      exact back
  | flag key get set =>
      cases written
      exact True.intro

/-- A field that is not written is left as it is. -/
theorem copy_of_unwritten {field : Field σ} {s : σ} (unwritten : field.item s = none) (t : σ) :
    field.copy s t = t := by
  cases field with
  | optionalWord key get set =>
      cases there : get s with
      | none => simp [copy, there]
      | some n => simp [item, there] at unwritten
  | _ => cases unwritten

def copyAll (fields : List (Field σ)) (s t : σ) : σ := fields.foldl (fun t field => field.copy s t) t

end Field

/-- A part of a value, which can be put in again. -/
structure Part {σ τ : Type} (part : τ → σ) (put : σ → τ → τ) : Prop where
  put_part : ∀ t, put (part t) t = t
  part_put : ∀ x t, part (put x t) = x
  put_put : ∀ x y t, put x (put y t) = put x t

namespace Field

variable {σ τ : Type} {part : τ → σ} {put : σ → τ → τ}

theorem copy_within (lens : Part part put) (field : Field σ) (s t : τ) :
    (field.within part put).copy s t = put (field.copy (part s) (part t)) t := by
  cases field with
  | optionalWord key get set =>
      cases there : get (part s) with
      | none => simp [within, copy, there, lens.put_part]
      | some n => simp [within, copy, there]
  | _ => rfl

/-- To copy the fields of a part is to copy the part. -/
theorem copyAll_within (lens : Part part put) (fields : List (Field σ)) (s t : τ) :
    copyAll (fields.map (within part put)) s t = put (copyAll fields (part s) (part t)) t := by
  induction fields generalizing t with
  | nil => exact (lens.put_part t).symm
  | cons field fields ih =>
      have later := ih ((field.within part put).copy s t)
      rw [copy_within lens, lens.part_put, lens.put_put, ← copy_within lens] at later
      exact later

end Field

namespace Settings

/-- Entries of a table are read into their fields. -/
theorem readEntries_items {fields : List (Field Settings)} (apart : (fields.map Field.key).Nodup)
    (s t : Settings) :
    (Toml.entries (Field.items fields s)).foldlM (readEntry fields) t =
      .ok (Field.copyAll fields s t) := by
  have some_ : ∀ some_ : List (Field Settings), (∀ field ∈ some_, field ∈ fields) → ∀ t,
      (Toml.entries (Field.items some_ s)).foldlM (readEntry fields) t =
        .ok (Field.copyAll some_ s t) := by
    intro some_
    induction some_ with
    | nil => exact fun _ _ => rfl
    | cons field rest ih =>
        intro among t
        have later := ih fun other mem => among other (List.mem_cons_of_mem field mem)
        cases written : field.item s with
        | none =>
            simp only [Field.items, written, List.filterMap_cons, Field.copyAll, List.foldl_cons,
              Field.copy_of_unwritten written] at later ⊢
            exact later t
        | some pair =>
            obtain ⟨key, read⟩ := Field.read_item written t
            have found := find?_of_nodup apart (among field List.mem_cons_self)
            have entered : readEntry fields t (pair.1, pair.2.node) = .ok (field.copy s t) := by
              simp only [readEntry, key, found, read]
              rfl
            simp only [Field.items, written, List.filterMap_cons, Field.copyAll, List.foldl_cons,
              Toml.entries, List.map_cons, List.foldlM_cons, entered] at later ⊢
            exact later (field.copy s t)
  exact some_ fields (fun _ mem => mem) t

/-! ## The lists of keys -/

/-- The sections with what is written in them. -/
def chapters (s : Settings) : List Toml.Chapter :=
  sections.map fun sec => (sec.name, Field.items sec.fields s)

theorem render_eq (s : Settings) :
    s.render = Toml.renderPairs (Field.items loose s) ++ Toml.renderChapters s.chapters := by
  rw [render, Toml.renderChapters, chapters, List.map_map]
  rfl

/-- No key is listed twice in one table. -/
theorem keys_apart :
    (loose.map Field.key ++ sections.map Section.name).Nodup ∧
      ∀ sec ∈ sections, (sec.fields.map Field.key).Nodup := by
  decide

theorem keys_bare :
    (∀ field ∈ loose, Toml.Bare field.key) ∧
      ∀ sec ∈ sections, Toml.Bare sec.name ∧ ∀ field ∈ sec.fields, Toml.Bare field.key := by
  decide

/-- The list of a section leaves no field out and mixes none up. -/
theorem selection_copied (r : SelectionRules) : Field.copyAll SelectionRules.fields r {} = r := by
  obtain ⟨burst, weights, least, seed⟩ := r
  cases seed with
  | none => rfl
  | some seed => rfl

theorem phases_copied (r : PhaseBounds) : Field.copyAll PhaseBounds.fields r {} = r := rfl

theorem cooldown_copied (r : CooldownRules) : Field.copyAll CooldownRules.fields r {} = r := by
  simp only [Field.copyAll, CooldownRules.fields, List.foldl_cons, List.foldl_nil, Field.copy]

theorem rebuild_copied (r : RebuildRules) : Field.copyAll RebuildRules.fields r {} = r := by
  simp only [Field.copyAll, RebuildRules.fields, List.foldl_cons, List.foldl_nil, Field.copy]

/-- All that is written of the settings, put into the defaults. -/
def copied (s : Settings) : Settings :=
  sections.foldl (fun t sec => Field.copyAll sec.fields s t) (Field.copyAll loose s {})

theorem copied_eq (s : Settings) : s.copied = s := by
  have selection : Part (fun s : Settings => s.selection) fun r s => { s with selection := r } :=
    ⟨fun _ => rfl, fun _ _ => rfl, fun _ _ _ => rfl⟩
  have phases : Part (fun s : Settings => s.phases) fun r s => { s with phases := r } :=
    ⟨fun _ => rfl, fun _ _ => rfl, fun _ _ _ => rfl⟩
  have cooldown : Part (fun s : Settings => s.cooldown) fun r s => { s with cooldown := r } :=
    ⟨fun _ => rfl, fun _ _ => rfl, fun _ _ _ => rfl⟩
  have rebuild : Part (fun s : Settings => s.rebuild) fun r s => { s with rebuild := r } :=
    ⟨fun _ => rfl, fun _ _ => rfl, fun _ _ _ => rfl⟩
  simp only [copied, sections, List.foldl_cons, List.foldl_nil, Field.copyAll_within selection,
    Field.copyAll_within phases, Field.copyAll_within cooldown, Field.copyAll_within rebuild]
  have top : Field.copyAll loose s {} = { circuits := s.circuits } := rfl
  rw [top]
  simp only [selection_copied, phases_copied, cooldown_copied, rebuild_copied]

/-! ## Reading the document -/

theorem items_keys (fields : List (Field Settings)) (s : Settings) :
    ((Field.items fields s).map Prod.fst).Sublist (fields.map Field.key) := by
  induction fields with
  | nil => exact List.nil_sublist _
  | cons field fields ih =>
      cases written : field.item s with
      | none =>
          simp only [Field.items, List.filterMap_cons, written] at ih ⊢
          exact ih.cons _
      | some pair =>
          have key := (Field.read_item written s).1
          simp only [Field.items, List.filterMap_cons, written, List.map_cons, key] at ih ⊢
          exact ih.cons_cons _

/-- What stands above the sections names no section. -/
theorem readTop_loose {entry : String × Toml.Node} (mem : entry.1 ∈ loose.map Field.key)
    (t : Settings) : readTop t entry = readEntry loose t entry := by
  have none_ : sections.find? (·.name = entry.1) = none := by
    rw [List.find?_eq_none]
    intro sec listed same
    have same' : sec.name = entry.1 := of_decide_eq_true same
    exact (List.nodup_append.1 keys_apart.1).2.2 _ mem _ (List.mem_map_of_mem listed) same'.symm
  rw [readTop, none_]

theorem readTop_section {sec : Section} (mem : sec ∈ sections) (s t : Settings) :
    readTop t (sec.name, .table .header (Toml.entries (Field.items sec.fields s))) =
      .ok (Field.copyAll sec.fields s t) := by
  have found := find?_of_nodup (List.nodup_append.1 keys_apart.1).2.1 mem
  rw [readTop, found]
  exact readEntries_items (keys_apart.2 sec mem) s t

theorem ofDocument_items (s : Settings) :
    ofDocument (Toml.entries (Field.items loose s) ++ Toml.chapterEntries s.chapters) = .ok s := by
  have keys : ∀ entry ∈ Toml.entries (Field.items loose s), entry.1 ∈ loose.map Field.key := by
    intro entry mem
    obtain ⟨pair, written, rfl⟩ := List.mem_map.1 mem
    exact (items_keys loose s).subset (List.mem_map_of_mem written)
  have top : (Toml.entries (Field.items loose s)).foldlM readTop ({} : Settings) =
      .ok (Field.copyAll loose s {}) := by
    rw [foldlM_congr fun entry mem t => readTop_loose (keys entry mem) t]
    exact readEntries_items (List.nodup_append.1 keys_apart.1).1 s {}
  have below : (Toml.chapterEntries s.chapters).foldlM readTop (Field.copyAll loose s {}) =
      .ok s.copied := by
    rw [Toml.chapterEntries, chapters, List.map_map, List.foldlM_map]
    exact foldlM_eq_ok fun sec mem t => readTop_section mem s t
  rw [copied_eq] at below
  exact foldlM_append_ok top below

/-! ## Reading the text -/

/-- Every double of the settings. -/
def doubles (s : Settings) : List Float :=
  s.selection.rankWeights ++ [s.selection.minWeight,
    s.cooldown.relaxedMissing, s.cooldown.relaxedConcealed,
    s.cooldown.strictMissing, s.cooldown.strictConcealed,
    s.cooldown.relaxedDelivery, s.cooldown.strictDelivery, s.cooldown.audibleConcealed,
    s.cooldown.cleanMissing, s.cooldown.cleanConcealed, s.cooldown.cleanLate, s.cooldown.rampFactor,
    s.rebuild.severeConcealed, s.rebuild.combinedConcealed, s.rebuild.combinedMissing,
    s.rebuild.networkConcealed, s.rebuild.networkLateToBuffer]

/-- No others are written. -/
theorem written_doubles (s : Settings) :
    (Field.items loose s ++ sections.flatMap fun sec => Field.items sec.fields s).flatMap
      (fun pair => pair.2.doubles) = s.doubles := by
  obtain ⟨circuits, ⟨burst, weights, least, seed⟩, phases, cooldown, rebuild⟩ := s
  cases seed with
  | none => rfl
  | some seed => rfl

/-- What is written in a table can be read there. -/
theorem items_wellFormed {s : Settings} {fields : List (Field Settings)}
    (apart : (fields.map Field.key).Nodup) (bare : ∀ field ∈ fields, Toml.Bare field.key)
    (numbers : ∀ pair ∈ Field.items fields s, ∀ x ∈ pair.2.doubles, x.isNaN = false) :
    Toml.WellFormed (Field.items fields s) := by
  refine ⟨fun pair mem => ?_, fun pair mem => ?_, apart.sublist (items_keys fields s)⟩
  · obtain ⟨field, listed, key⟩ := List.mem_map.1
      ((items_keys fields s).subset (List.mem_map_of_mem mem))
    exact key ▸ bare field listed
  · obtain ⟨field, -, written⟩ := List.mem_filterMap.1 mem
    exact Field.item_legible written fun x inside => Toml.readsBack (numbers pair mem x inside)

/-- What is written is read, if every double in it is a number. -/
theorem parse_render {s : Settings} (numbers : ∀ x ∈ s.doubles, x.isNaN = false) :
    parse s.render = .ok s := by
  rw [← written_doubles] at numbers
  have top : Toml.WellFormed (Field.items loose s) :=
    items_wellFormed (List.nodup_append.1 keys_apart.1).1 keys_bare.1 fun pair mem x inside =>
      numbers x (List.mem_flatMap.2 ⟨pair, List.mem_append_left _ mem, inside⟩)
  have below : ∀ c ∈ s.chapters, Toml.Bare c.1 ∧ Toml.WellFormed c.2 := by
    intro c mem
    obtain ⟨sec, listed, rfl⟩ := List.mem_map.1 mem
    obtain ⟨bare, bare'⟩ := keys_bare.2 sec listed
    refine ⟨bare, items_wellFormed (keys_apart.2 sec listed) bare' fun pair mem' x inside => ?_⟩
    refine numbers x (List.mem_flatMap.2 ⟨pair, List.mem_append_right _ ?_, inside⟩)
    exact List.mem_flatMap.2 ⟨sec, listed, mem'⟩
  have apart : ((Field.items loose s).map Prod.fst ++ s.chapters.map Prod.fst).Nodup := by
    have names : s.chapters.map Prod.fst = sections.map Section.name := List.map_map
    rw [names]
    exact keys_apart.1.sublist ((items_keys loose s).append (List.Sublist.refl _))
  rw [parse, render_eq, Toml.parse?_render top below apart]
  exact ofDocument_items s

/-- To save is to write the settings into a file, below folders that are made before. -/
theorem save_eq_ok {s : Settings} {files files' : Files} {path : String}
    (saved : s.save files path = .ok files') :
    ∃ prepared, files.prepare path = .ok prepared ∧ prepared.write path s.render = .ok files' := by
  unfold save at saved
  cases prepared : files.prepare path with
  | error fault =>
      rw [prepared] at saved
      cases saved
  | ok below =>
      rw [prepared] at saved
      simp only [bind, Except.bind] at saved
      cases written : below.write path s.render with
      | error fault =>
          rw [written] at saved
          cases saved
      | ok after =>
          rw [written] at saved
          obtain rfl := Except.ok.inj saved
          exact ⟨below, rfl, written⟩

/-- What is saved can be loaded, and is what was saved. -/
theorem load_saved {s : Settings} (numbers : ∀ x ∈ s.doubles, x.isNaN = false) {files files' : Files}
    {path : String} (saved : s.save files path = .ok files') : load files' path = .ok s := by
  obtain ⟨prepared, -, written⟩ := save_eq_ok saved
  simp only [load, Files.read_of_write written, parse_render numbers]

/-- Settings with little in common with the defaults. -/
def unusual : Settings where
  circuits := 0xffffffffffffffff
  selection := { rankWeights := [-0.0, Float.ofBits 0x7ff0000000000000, 5e-324], seed := some 0 }
  rebuild := { onFeedback := false }

theorem load_saved_unusual :
    (∀ x ∈ unusual.doubles, x.isNaN = false) ∧
      unusual.save {} "scheduler.toml" =
        .ok (Files.put {} ["scheduler.toml"] (.file unusual.render)) ∧
      load (Files.put {} ["scheduler.toml"] (.file unusual.render)) "scheduler.toml" =
        .ok unusual := by
  have numbers : ∀ x ∈ unusual.doubles, x.isNaN = false := by decide +kernel
  have located : Files.locate {} "scheduler.toml" = .ok ⟨[], some "scheduler.toml", false⟩ := by cbv
  have empty : Files.look {} ["scheduler.toml"] = .ok none := by
    simp [Files.look, Files.entry?, Files.maxName]
    decide
  have prepared : Files.prepare {} "scheduler.toml" = .ok {} := rfl
  have saved : unusual.save {} "scheduler.toml" =
      .ok (Files.put {} ["scheduler.toml"] (.file unusual.render)) := by
    simp only [save, prepared, bind, Except.bind]
    simp [Files.write, located, bind, Except.bind, Files.Target.place, empty]
  exact ⟨numbers, saved, load_saved numbers saved⟩

end Settings

end Multipath
