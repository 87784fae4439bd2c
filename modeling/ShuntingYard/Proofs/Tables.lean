import ShuntingYard.Proofs.Balance
import ShuntingYard.Proofs.Relabelling
import ShuntingYard.Proofs.Words

/-! What a table of functions has to say in the postfix form of a text: which of its words are names,
    and no more. Arities go along with the functions and decide nothing, and a name that is no word in
    lower case is never found:

        2SIN(x)    sin: 1             2 x SIN     SIN is a function of one operand
        2SIN(x)    sin: 7, Sin: 1     2 x SIN     SIN is a function of seven operands
        2SIN(x)    x: 1               2 SIN x     x is a function, of no group

    Whether there is a postfix form at all is not for the table to say. -/

namespace ShuntingYard

variable {table table' : FunctionTable} {text word : String} {t : Token} {ts us : List Token}

/-! ### Words and names -/

/-- The entries whose names have a property. -/
def FunctionTable.restrict (p : String → Bool) (table : FunctionTable) : FunctionTable :=
  ⟨table.entries.filter fun e => p e.1, table.ascending.filter _⟩

theorem FunctionTable.arity?_restrict (p : String → Bool) (table : FunctionTable) (name : String) :
    (table.restrict p).arity? name = if p name then table.arity? name else none :=
  lookup_filter p name table.entries

/-! ### Arities -/

/-- Tables that have the same words of a text among their names. -/
def SameNames (table table' : FunctionTable) (text : String) : Prop :=
  ∀ word, HasWord text word →
    table.contains (Text.lowercase word) = table'.contains (Text.lowercase word)

/-- What another table makes of a token: a function has the arity that it has there. -/
def FunctionTable.adjust (table : FunctionTable) : Token → Token
  | .function s _ => .function s ((table.arity? (Text.lowercase s)).getD 0)
  | t => t

theorem FunctionTable.text_adjust (table : FunctionTable) (t : Token) :
    (table.adjust t).text = t.text := by
  cases t <;> rfl

theorem FunctionTable.map_text_adjust (table : FunctionTable) (ts : List Token) :
    (ts.map table.adjust).map Token.text = ts.map Token.text := by
  rw [List.map_map]
  exact List.map_congr_left fun t _ => table.text_adjust t

theorem FunctionTable.convert_adjust (table : FunctionTable) (ts : List Token) :
    convert (ts.map table.adjust) = (convert ts).map (List.map table.adjust) := by
  refine convert_map_of_operator (fun t => ?_) fun s _ => rfl
  cases t with
  | function s arity => exact .function s s arity _
  | _ => exact .refl _

theorem Canonical.adjust (h : Canonical table t) (hnames : IsWord t.text →
    table.contains (Text.lowercase t.text) = table'.contains (Text.lowercase t.text)) :
    Canonical table' (table'.adjust t) := by
  cases h with
  | number h => exact .number h
  | operator o => exact .operator o
  | leftParen => exact .leftParen
  | rightParen => exact .rightParen
  | @identifier s hword harity =>
    have hcontains := hnames hword
    rw [Token.text, FunctionTable.contains, harity, FunctionTable.contains] at hcontains
    exact .identifier hword (by simpa using hcontains.symm)
  | @function s arity hword harity =>
    have hcontains := hnames hword
    rw [Token.text, FunctionTable.contains, harity, FunctionTable.contains] at hcontains
    obtain ⟨arity', harity'⟩ := Option.isSome_iff_exists.mp hcontains.symm
    rw [FunctionTable.adjust, harity']
    exact .function hword harity'

/-- Tables with the same names make tokens of a text that differ in arities only. -/
theorem exists_tokens_adjust (hne : text ≠ "") (hnames : SameNames table table' text)
    (separator : Option String) :
    ∃ ts, (tokenize ⟨some table, separator⟩ (.text text)).outcome = .ok ts ∧
      (tokenize ⟨some table', separator⟩ (.text text)).outcome = .ok (ts.map table'.adjust) := by
  obtain ⟨ts, htokens, hcanonical, htexts⟩ := tokenize_canonical hne table separator
  refine ⟨ts, htokens, ?_⟩
  have hadjusted : ∀ t ∈ ts.map table'.adjust, Canonical table' t := by
    refine List.forall_mem_map.mpr fun t ht => (hcanonical t ht).adjust fun hword => hnames _ ?_
    refine hasWord_iff.mpr ⟨hword, ?_⟩
    rw [pieces, htexts]
    exact List.mem_map_of_mem ht
  rw [outcome_tokenize, Source.read_text hne]
  exact mapM_eq_ok (map_classify (htexts.trans (table'.map_text_adjust ts).symm) hadjusted)

theorem render_congr (h : ts.map Token.text = us.map Token.text) (separator : Option String) :
    render separator ts = render separator us := by
  unfold render
  rw [h]

/-- Whether there is a postfix form at all is told by parentheses and the separator. -/
theorem outcome_toPostfix_unit (hne : text ≠ "") (table : FunctionTable)
    (separator : Option String) :
    (toPostfix ⟨some table, separator⟩ (.text text)).outcome.map (fun _ => ()) =
      (balance text.toList).bind fun _ => (render separator []).map fun _ => () := by
  obtain ⟨ts, htokens, -, hconvert⟩ := exists_tokens_balance hne table separator
  rw [outcome_stages, htokens, Except.bind, ← hconvert]
  cases convert ts with
  | error e => rfl
  | ok us => cases separator <;> rfl

theorem outcome_toPostfix_adjust (hne : text ≠ "") (hnames : SameNames table table' text)
    (separator : Option String) :
    (toPostfix ⟨some table, separator⟩ (.text text)).outcome =
      (toPostfix ⟨some table', separator⟩ (.text text)).outcome := by
  obtain ⟨ts, htokens, htokens'⟩ := exists_tokens_adjust hne hnames separator
  rw [outcome_stages, outcome_stages, htokens, htokens', Except.bind, Except.bind,
    table'.convert_adjust]
  cases convert ts with
  | error e => rfl
  | ok us => exact render_congr (table'.map_text_adjust us).symm separator

/-- Names that are no words in lower case are as good as not there. -/
theorem tokenize_restrict (hne : text ≠ "") (table : FunctionTable) (separator : Option String) :
    tokenize ⟨some table, separator⟩ (.text text) =
      tokenize ⟨some (table.restrict fun name => Run .lower name.toList), separator⟩
        (.text text) := by
  refine tokenize_congr hne (fun word hword => ?_) separator
  rw [classifyWord, classifyWord, FunctionTable.arity?_restrict,
    if_pos (decide_eq_true hword.isWord.run_lowercase)]

/-- What a table can change. The texts of tokens are the same under any two tables, and there is a
    postfix form under both or under none. If the same words of the text are names, it is the same
    form, whatever the arities. And only names that are words in lower case have an effect. -/
theorem toPostfix_tables (hne : text ≠ "") (table table' : FunctionTable)
    (separator : Option String) :
    let tokens (functions : FunctionTable) := tokenize ⟨some functions, separator⟩ (.text text)
    let result (functions : FunctionTable) := toPostfix ⟨some functions, separator⟩ (.text text)
    let words : FunctionTable := table.restrict fun name => Run .lower name.toList
    (∃ ts ts', (tokens table).outcome = .ok ts ∧ (tokens table').outcome = .ok ts' ∧
      ts.map Token.text = ts'.map Token.text ∧
      (SameNames table table' text →
        (convert ts).map (List.map Token.text) = (convert ts').map (List.map Token.text))) ∧
    (result table).outcome.map (fun _ => ()) = (result table').outcome.map (fun _ => ()) ∧
    (SameNames table table' text → (result table).outcome = (result table').outcome) ∧
    tokens table = tokens words ∧ result table = result words := by
  intro tokens result words
  have hwords : tokens table = tokens words := tokenize_restrict hne table separator
  refine ⟨?_, ?_, fun hnames => outcome_toPostfix_adjust hne hnames separator, hwords, ?_⟩
  · obtain ⟨ts, hts, -, htexts⟩ := tokenize_canonical hne table separator
    obtain ⟨ts', hts', -, htexts'⟩ := tokenize_canonical hne table' separator
    refine ⟨ts, ts', hts, hts', htexts.symm.trans htexts', fun hnames => ?_⟩
    obtain ⟨us, hus, hus'⟩ := exists_tokens_adjust hne hnames separator
    obtain rfl : ts = us := Except.ok.inj (hts.symm.trans hus)
    obtain rfl : ts' = ts.map table'.adjust := Except.ok.inj (hts'.symm.trans hus')
    rw [table'.convert_adjust]
    cases convert ts with
    | error e => rfl
    | ok us => exact congrArg Except.ok (table'.map_text_adjust us).symm
  · exact (outcome_toPostfix_unit hne table separator).trans
      (outcome_toPostfix_unit hne table' separator).symm
  · exact toPostfix_congr hwords rfl

/-- A table with another arity, and with a name that no word has in lower case. -/
theorem toPostfix_tables_arity :
    let text := "2SIN(x)"
    let table' := FunctionTable.ofList [("sin", 7), ("Sin", 1)]
    let tokens (functions : FunctionTable) := tokenize ⟨some functions, some " "⟩ (.text text)
    let result (functions : FunctionTable) := toPostfix ⟨some functions, some " "⟩ (.text text)
    text ≠ "" ∧ SameNames table' .trigonometric text ∧
      (tokens table').outcome = .ok [.number "2", .function "SIN" 7, .leftParen "(",
        .identifier "x", .rightParen ")"] ∧
      (tokens .trigonometric).outcome = .ok [.number "2", .function "SIN" 1, .leftParen "(",
        .identifier "x", .rightParen ")"] ∧
      (result .trigonometric).outcome = .ok "2 x SIN" ∧ (result table').outcome = .ok "2 x SIN" ∧
      result table' = result (.ofList [("sin", 7)]) := by
  intro text table' tokens result
  have hne : text ≠ "" := by decide
  have hnames : SameNames table' .trigonometric text := by
    intro word hword
    have hmem := (hasWord_iff.mp hword).2
    have hpieces : pieces text = ["2", "SIN", "(", "x", ")"] := by decide
    rw [hpieces] at hmem
    have hall : ["2", "SIN", "(", "x", ")"].all (fun word =>
        table'.contains (Text.lowercase word) ==
          FunctionTable.trigonometric.contains (Text.lowercase word)) = true := by
      decide +kernel
    exact eq_of_beq (List.all_eq_true.mp hall word hmem)
  have hresult : (result .trigonometric).outcome = .ok "2 x SIN" := by decide +kernel
  obtain ⟨-, -, hsame, -, hwords⟩ := toPostfix_tables hne table' .trigonometric (some " ")
  have hrestricted : (table'.restrict fun name => Run .lower name.toList) =
      .ofList [("sin", 7)] := by
    decide
  refine ⟨hne, hnames, by decide +kernel, by decide +kernel, hresult,
    (hsame hnames).trans hresult, ?_⟩
  exact hwords.trans (congrArg result hrestricted)

end ShuntingYard
