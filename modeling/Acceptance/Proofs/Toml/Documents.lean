import Acceptance.Proofs.Toml.Values

/-!
# TOML documents read back

A printed document is read back: its sections in their order, and the values of each.

* `Bare`: a name that needs no quotes.
* `Printable`: sections that are read back.
* `Draft.within`: the draft behind some sections and some entries of one more.
* `Leads`: lines lead from one draft of a document to another.

Results:
* `leads_header`, `leads_entry`: what one line does.
* `leads_print`: what the lines of some sections do.
* `parse_print`: a printed document is read back.
-/

namespace Acceptance.Toml

variable {c d : Char} {p t rest : List Char} {name key : String} {v : Value}

/-- Sections of a document with their entries. -/
abbrev Sections := List (String × List (String × Value))

/-- A name that needs no quotes. -/
structure Bare (name : String) : Prop where
  ne_nil : name.toList ≠ []
  chars : ∀ c ∈ name.toList, isNameChar c = true

/-- Sections that are read back: none comes twice, and neither does a key in one of them. -/
structure Printable (sections : Sections) : Prop where
  distinct : (sections.map (·.1)).Nodup
  names : ∀ s ∈ sections, Bare s.1
  keys_distinct : ∀ s ∈ sections, (s.2.map (·.1)).Nodup
  keys : ∀ s ∈ sections, ∀ e ∈ s.2, Bare e.1
  values : ∀ s ∈ sections, ∀ e ∈ s.2, Ready (maxDepth - 1) e.2

/-! ## Names -/

/-- A character of a name is neither a blank nor a quote, and does not start another kind of line. -/
theorem nameChar_head (h : isNameChar c = true) :
    isBlank c = false ∧ c ∉ ['"', '\'', '#', '[', '\n', '\r'] := by
  constructor
  · refine isBlank_eq_false_iff.mpr ⟨?_, ?_⟩ <;> (rintro rfl; revert h; decide)
  · intro hmem
    simp only [List.mem_cons, List.not_mem_nil, or_false] at hmem
    rcases hmem with rfl | rfl | rfl | rfl | rfl | rfl <;> revert h <;> decide

theorem Bare.head (h : Bare name) :
    ∃ c r, name.toList = c :: r ∧ isBlank c = false ∧ c ∉ ['"', '\'', '#', '[', '\n', '\r'] := by
  obtain ⟨c, r, hc⟩ := List.exists_cons_of_ne_nil h.ne_nil
  exact ⟨c, r, hc, nameChar_head (h.chars c (hc ▸ List.mem_cons_self))⟩

theorem takeName_bare (h : Bare name) (hc : isNameChar c = false) :
    takeName (name.toList ++ c :: t) = some (name, c :: t) := by
  have htake : (name.toList ++ c :: t).takeWhile isNameChar = name.toList := by
    rw [List.takeWhile_append_of_pos h.chars]
    simp [hc]
  obtain ⟨d, r, hd, -, hquote⟩ := h.head
  simp only [List.mem_cons, List.not_mem_nil, or_false, not_or] at hquote
  rw [takeName]
  · simp [htake, h.ne_nil]
  · rintro u heq
    rw [hd] at heq
    exact hquote.1 (List.cons.inj heq).1
  · rintro u heq
    rw [hd] at heq
    exact hquote.2.1 (List.cons.inj heq).1

/-- A key of one name is read to what stands behind it and some blanks. -/
theorem takeKey_bare (h : Bare name) (hc : isNameChar c = false) {u : List Char}
    (hskip : skipBlanks (c :: t) = d :: u) (hd : d ≠ '.') :
    takeKey (name.toList ++ c :: t) = some ([name], d :: u) := by
  obtain ⟨e, r, he, hblank, -⟩ := h.head
  have hstart : skipBlanks (name.toList ++ c :: t) = name.toList ++ c :: t := by
    simp [skipBlanks, he, hblank]
  have hnames (fuel : Nat) :
      takeNames (fuel + 1) (name.toList ++ c :: t) = some ([name], d :: u) := by
    rw [takeNames, hstart, takeName_bare h hc]
    simp only [bind, Option.bind, hskip]
    split
    · rename_i heq
      exact absurd (List.cons.inj heq).1 hd
    · rfl
  rw [takeKey, hnames]
  rfl

/-! ## Drafts -/

/-- The entries of a section, as parts of a document under way. -/
def valueItems (es : List (String × Value)) : Entries := es.map fun e => (e.1, .value e.2)

/-- Sections, as parts of a document under way. -/
def sectionItems (sections : Sections) : Entries :=
  sections.map fun s => (s.1, .table .written (valueItems s.2))

/-- The draft behind some sections and some entries of one more. -/
def Draft.within (done : Sections) (name : String) (es : List (String × Value)) : Draft :=
  ⟨sectionItems done, [name], false, valueItems es⟩

variable {done : Sections} {es es' : List (String × Value)} {draft draft' : Draft}

theorem lookup_valueItems (h : key ∉ es.map (·.1)) : (valueItems es).lookup key = none := by
  rw [List.lookup_eq_none_iff]
  simp only [valueItems, List.mem_map]
  rintro x ⟨e, he, rfl⟩
  simpa using fun hk : key = e.1 => h (hk ▸ List.mem_map_of_mem he)

theorem lookup_sectionItems (h : name ∉ done.map (·.1)) : (sectionItems done).lookup name = none := by
  rw [List.lookup_eq_none_iff]
  simp only [sectionItems, List.mem_map]
  rintro x ⟨s, hs, rfl⟩
  simpa using fun hk : name = s.1 => h (hk ▸ List.mem_map_of_mem hs)

/-- A key line adds an entry to the section. -/
theorem Draft.insert_within (h : key ∉ es.map (·.1)) (v : Value) :
    (Draft.within done name es).insert [key] v = some (Draft.within done name (es ++ [(key, v)])) := by
  have hsnoc : valueItems (es ++ [(key, v)]) = valueItems es ++ [(key, .value v)] := List.map_append
  simp [Draft.insert, Draft.within, Entries.insert, Entries.descend_nil, lookup_valueItems h, hsnoc]

/-- At its end a section comes behind those before it. -/
theorem Draft.finish_within (h : name ∉ done.map (·.1)) :
    (Draft.within done name es).finish = some (sectionItems (done ++ [(name, es)])) := by
  have hsnoc : sectionItems (done ++ [(name, es)]) =
      sectionItems done ++ [(name, .table .written (valueItems es))] := List.map_append
  simp [Draft.finish, Draft.within, Entries.descend_nil, lookup_sectionItems h, hsnoc]

/-- A header opens a section. -/
theorem Draft.header_of_finish (hd : draft.finish = some (sectionItems done))
    (h : name ∉ done.map (·.1)) : draft.header false [name] = some (Draft.within done name []) := by
  have hnil : valueItems [] = [] := rfl
  simp [Draft.header, Draft.within, hd, Entries.descend_nil, lookup_sectionItems h, hnil]

theorem entriesValue_valueItems (es : List (String × Value)) : entriesValue (valueItems es) = es := by
  induction es with
  | nil => rfl
  | cons e es ih => exact congrArg (e :: ·) ih

theorem entriesValue_sectionItems (sections : Sections) :
    entriesValue (sectionItems sections) = sections.map fun s => (s.1, .table s.2) := by
  induction sections with
  | nil => rfl
  | cons s sections ih =>
    show (s.1, Value.table (entriesValue (valueItems s.2))) :: entriesValue (sectionItems sections) = _
    rw [entriesValue_valueItems, ih]
    rfl

/-! ## Lines -/

/-- Lines lead from one draft to another, with fuel left for what follows them. -/
def Leads (draft : Draft) (p : List Char) (draft' : Draft) : Prop :=
  ∀ fuel rest, p.length + rest.length < fuel →
    ∃ fuel', rest.length < fuel' ∧ takeLines fuel draft (p ++ rest) = takeLines fuel' draft' rest

theorem Leads.nil (draft : Draft) : Leads draft [] draft := fun fuel rest h =>
  ⟨fuel, Nat.lt_of_le_of_lt (Nat.le_add_left rest.length _) h, rfl⟩

theorem Leads.append {draft'' : Draft} {q : List Char} (h : Leads draft p draft')
    (h' : Leads draft' q draft'') : Leads draft (p ++ q) draft'' := by
  intro fuel rest hfuel
  obtain ⟨fuel', hfuel', heq⟩ := h fuel (q ++ rest) (by simp at hfuel ⊢; omega)
  obtain ⟨fuel'', hfuel'', heq'⟩ := h' fuel' rest (by simpa using hfuel')
  exact ⟨fuel'', hfuel'', by rw [List.append_assoc, heq, heq']⟩

/-- One line: it takes one unit of fuel. -/
theorem Leads.line {p : List Char} (hne : p ≠ [])
    (h : ∀ fuel rest, takeLines (fuel + 1) draft (p ++ rest) = takeLines fuel draft' rest) :
    Leads draft p draft' := by
  intro fuel rest hfuel
  have hpos := List.length_pos_iff.mpr hne
  obtain ⟨fuel, rfl⟩ := Nat.exists_eq_succ_of_ne_zero (Nat.ne_zero_of_lt hfuel)
  exact ⟨fuel, by omega, h fuel rest⟩

/-- An empty line changes nothing. -/
theorem leads_newline (draft : Draft) : Leads draft ['\n'] draft :=
  .line (List.cons_ne_nil _ _) fun _ _ => rfl

/-- The line of a header. -/
theorem leads_header (hb : Bare name) (h : draft.header false [name] = some draft') :
    Leads draft ('[' :: (name.toList ++ [']', '\n'])) draft' := by
  refine .line (List.cons_ne_nil _ _) fun fuel rest => ?_
  have hkey : takeKey (name.toList ++ ']' :: '\n' :: rest) = some ([name], ']' :: '\n' :: rest) :=
    takeKey_bare hb rfl rfl (by decide)
  have hheader : takeHeader ('[' :: (name.toList ++ ']' :: '\n' :: rest)) =
      some ((false, [name]), '\n' :: rest) := by
    obtain ⟨c, r, hc, -, hbracket⟩ := hb.head
    rw [takeHeader, hkey]
    · rfl
    · rintro u heq
      rw [hc] at heq
      exact hbracket (by simp [(List.cons.inj heq).1])
  have hend : finishLine ('\n' :: rest) = some rest := rfl
  have htext : '[' :: (name.toList ++ [']', '\n']) ++ rest =
      '[' :: (name.toList ++ ']' :: '\n' :: rest) := by simp
  have hstart (u : List Char) : skipBlanks ('[' :: u) = '[' :: u := rfl
  rw [htext, takeLines, hstart]
  simp [hheader, hend, h]

theorem takeEntry_bare (hb : Bare key) (hv : Reads (maxDepth - 1) p v) (rest : List Char) :
    takeEntry (key.toList ++ ' ' :: '=' :: ' ' :: (p ++ '\n' :: rest)) =
      some (([key], v), '\n' :: rest) := by
  have hkey : takeKey (key.toList ++ ' ' :: '=' :: ' ' :: (p ++ '\n' :: rest)) =
      some ([key], '=' :: ' ' :: (p ++ '\n' :: rest)) := takeKey_bare hb rfl rfl (by decide)
  have hskip : skipBlanks (' ' :: (p ++ '\n' :: rest)) = p ++ '\n' :: rest := by
    obtain ⟨c, r, rfl, hblank, -⟩ := hv.head
    show skipBlanks (c :: (r ++ '\n' :: rest)) = _
    simp [skipBlanks, hblank]
  have hvalue := hv.take (2 * (p ++ '\n' :: rest).length + 2) (maxDepth - 1) ('\n' :: rest)
    (by simp; omega) (Nat.le_refl _) ⟨'\n', rest, rfl, by decide⟩
  unfold takeEntry
  simp only [hkey, bind, Option.bind, hskip, hvalue]

theorem takeLines_entry {fuel : Nat} (hblank : isBlank c = false) (hc : c ∉ ['#', '[', '\n', '\r'])
    (he : takeEntry (c :: t) = some (([key], v), '\n' :: rest))
    (h : draft.insert [key] v = some draft') :
    takeLines (fuel + 1) draft (c :: t) = takeLines fuel draft' rest := by
  simp only [List.mem_cons, List.not_mem_nil, or_false, not_or] at hc
  obtain ⟨hcomment, hbracket, hn, hr⟩ := hc
  have hstart : skipBlanks (c :: t) = c :: t := by simp [skipBlanks, hblank]
  have hend : finishLine ('\n' :: rest) = some rest := rfl
  rw [takeLines, hstart]
  split
  · rename_i heq
    cases heq
  · rename_i heq
    exact absurd (List.cons.inj heq).1 hcomment
  · rename_i heq
    exact absurd (List.cons.inj heq).1 hbracket
  · rename_i heq
    rw [← heq, takeNewline_eq_none hn hr]
    simp [he, hend, h]

/-- The line of a key. -/
theorem leads_entry (hb : Bare key) (hv : Reads (maxDepth - 1) p v)
    (h : draft.insert [key] v = some draft') :
    Leads draft (key.toList ++ [' ', '=', ' '] ++ p ++ ['\n']) draft' := by
  obtain ⟨c, r, hc, hblank, hhead⟩ := hb.head
  refine .line (by simp [hc]) fun fuel rest => ?_
  have hentry := takeEntry_bare hb hv rest
  have htext : key.toList ++ [' ', '=', ' '] ++ p ++ ['\n'] ++ rest =
      key.toList ++ ' ' :: '=' :: ' ' :: (p ++ '\n' :: rest) := by simp
  rw [htext]
  rw [hc, List.cons_append] at hentry ⊢
  refine takeLines_entry hblank (fun hmem => hhead ?_) hentry h
  exact List.mem_cons_of_mem _ (List.mem_cons_of_mem _ hmem)

/-- The lines of some keys. -/
theorem leads_entries (hk : ((es ++ es').map (·.1)).Nodup) (hb : ∀ e ∈ es', Bare e.1)
    (hv : ∀ e ∈ es', Ready (maxDepth - 1) e.2) :
    Leads (.within done name es) (printEntries es') (.within done name (es ++ es')) := by
  induction es' generalizing es with
  | nil =>
    rw [List.append_nil]
    exact .nil _
  | cons e es' ih =>
    obtain ⟨hb, hb'⟩ := List.forall_mem_cons.mp hb
    obtain ⟨hv, hv'⟩ := List.forall_mem_cons.mp hv
    have hnew : e.1 ∉ es.map (·.1) := by
      rw [List.map_append, List.map_cons] at hk
      exact fun hmem => (List.nodup_append.mp hk).2.2 _ hmem _ List.mem_cons_self rfl
    have hinsert : (Draft.within done name es).insert [e.1] e.2 =
        some (.within done name (es ++ [(e.1, e.2)])) := Draft.insert_within hnew e.2
    have hline := leads_entry hb (reads_printValue hv) hinsert
    have hlines : Leads (.within done name (es ++ [(e.1, e.2)])) (printEntries es')
        (.within done name (es ++ [(e.1, e.2)] ++ es')) := ih (by simpa using hk) hb' hv'
    have happ : es ++ e :: es' = es ++ [(e.1, e.2)] ++ es' := List.append_cons es e es'
    rw [happ]
    exact hline.append hlines

/-! ## Documents -/

/-- The lines of a section: its header, and its keys. -/
theorem leads_section (hd : draft.finish = some (sectionItems done)) (hname : Bare name)
    (hnew : name ∉ done.map (·.1)) (hk : (es.map (·.1)).Nodup) (hb : ∀ e ∈ es, Bare e.1)
    (hv : ∀ e ∈ es, Ready (maxDepth - 1) e.2) :
    Leads draft (printSection name es) (.within done name es) := by
  have hheader := leads_header hname (Draft.header_of_finish hd hnew)
  have hentries : Leads (.within done name []) (printEntries es) (.within done name ([] ++ es)) :=
    leads_entries hk hb hv
  have hsection := hheader.append hentries
  simpa [printSection] using hsection

/-- **The lines of sections** lead to a draft that holds them, behind those before. -/
theorem leads_print {sections : Sections} (hd : draft.finish = some (sectionItems done))
    (h : Printable (done ++ sections)) :
    ∃ draft', Leads draft (print sections) draft' ∧
      draft'.finish = some (sectionItems (done ++ sections)) := by
  induction sections generalizing done draft with
  | nil => exact ⟨draft, .nil draft, by rw [List.append_nil, hd]⟩
  | cons s sections ih =>
    obtain ⟨name, es⟩ := s
    have happ : done ++ (name, es) :: sections = done ++ [(name, es)] ++ sections :=
      List.append_cons done (name, es) sections
    have hmem : (name, es) ∈ done ++ (name, es) :: sections := by simp
    have hnew : name ∉ done.map (·.1) := by
      have hdistinct := h.distinct
      rw [List.map_append, List.map_cons] at hdistinct
      exact fun hold => (List.nodup_append.mp hdistinct).2.2 _ hold _ List.mem_cons_self rfl
    have hsection := leads_section hd (h.names _ hmem) hnew (h.keys_distinct _ hmem)
      (h.keys _ hmem) (h.values _ hmem)
    obtain ⟨draft', hrest, hfinish⟩ := ih (Draft.finish_within hnew) (happ ▸ h)
    refine ⟨draft', ?_, by rw [happ, hfinish]⟩
    cases sections with
    | nil => simpa [print] using hsection.append hrest
    | cons s sections => exact hsection.append ((leads_newline _).append hrest)

theorem leads_newlines (draft : Draft) (n : Nat) : Leads draft (List.replicate n '\n') draft := by
  induction n with
  | zero => exact .nil draft
  | succ n ih => exact (leads_newline draft).append ih

/-- A document does not start with a byte order mark. -/
theorem print_append_ne (sections : Sections) (n : Nat) (r : List Char) :
    print sections ++ List.replicate n '\n' ≠ '\ufeff' :: r := by
  fun_cases print sections with
  | case1 => cases n <;> simp [List.replicate_succ]
  | case2 name es => simp [printSection]
  | case3 name es sections => simp [printSection]

/-- **A printed document is read back**, with any number of empty lines behind it. -/
theorem parse_print {sections : Sections} (h : Printable sections) (n : Nat) :
    parse (String.ofList (print sections ++ List.replicate n '\n')) =
      some (.table (sections.map fun s => (s.1, .table s.2))) := by
  have hempty : Draft.empty.finish = some (sectionItems []) := rfl
  obtain ⟨draft, hlines, hfinish⟩ := leads_print hempty h
  have hall := hlines.append (leads_newlines draft n)
  obtain ⟨fuel, hfuel, hread⟩ :=
    hall ((print sections ++ List.replicate n '\n').length + 1) [] (Nat.lt_succ_self _)
  obtain ⟨fuel, rfl⟩ := Nat.exists_eq_succ_of_ne_zero (Nat.ne_zero_of_lt hfuel)
  have hlast : takeLines (fuel + 1) draft [] = some draft := rfl
  rw [List.append_nil] at hread
  have hvalue : draft.toValue = some (.table (sections.map fun s => (s.1, .table s.2))) := by
    rw [Draft.toValue, hfinish]
    show some (Value.table (entriesValue (sectionItems sections))) = _
    rw [entriesValue_sectionItems]
  unfold parse
  rw [String.toList_ofList]
  split
  · exact absurd ‹_› (print_append_ne sections n _)
  · simp only [hread, hlast]
    exact hvalue

end Acceptance.Toml
