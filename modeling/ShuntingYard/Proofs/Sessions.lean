import ShuntingYard.Proofs.Balance
import ShuntingYard.Proofs.Conservation
import ShuntingYard.Proofs.Partition
import ShuntingYard.Session

/-! What sessions keep to. Whatever the commands, with tables and separators that change between them and
    with texts read again that were written under another table, the current tokens are of the kinds
    and the texts that a text can be cut into, so that no operator among them is unknown. Once they
    have been brought into postfix order there is no parenthesis among them, and to do it again
    always succeeds, until the tokens of a text take their place:

        tokenize "2*(x+y)"      2 * ( x + y )
        convert                 2 x y + *
        convert                 2 x y + *          and so on
        render, retokenize      2 x y + *          or others, as the separator has it -/

namespace ShuntingYard

variable {ts us : List Token} {t : Token} {k : CharClass} {text : String}
variable {functions : Option FunctionTable} {settings : Settings} {source : Source}

/-! ### Tokens that are cut from a text -/

/-- What the text of a token is, by its kind, when the token was cut from a text. -/
def Token.IsCut : Token → Prop
  | .number s => Run .digit s.toList
  | .identifier s | .function s _ => IsWord s
  | .operator s => ∃ o : Operator, s = o.text
  | .leftParen s => s = "("
  | .rightParen s => s = ")"
  | .plain _ => False

theorem IsWord.isCut (h : IsWord text) (hclassify : classifyWord functions text = .ok t) :
    t.IsCut := by
  unfold classifyWord at hclassify
  split at hclassify
  · split at hclassify
    all_goals
      cases hclassify
      exact h
  · split at hclassify
    · cases hclassify
    · cases hclassify
      exact h

/-- Runs are recognised as tokens with such texts. -/
theorem Run.isCut (h : Run k text.toList) (hclassify : ShuntingYard.classify functions text = .ok t) :
    t.IsCut := by
  have hword : IsWord text → t.IsCut := by
    intro hword
    rw [hword.classify] at hclassify
    exact hword.isCut hclassify
  cases k with
  | digit =>
    rw [h.classify_number] at hclassify
    cases hclassify
    exact h
  | lower => exact hword (.inl h)
  | upper => exact hword (.inr h)
  | mark =>
    rw [h.classify_mark] at hclassify
    rcases h.mark_cases with rfl | rfl | ⟨o, rfl⟩
    · cases hclassify
      rfl
    · cases hclassify
      rfl
    · cases o <;> cases hclassify <;> exact ⟨_, rfl⟩

theorem isCut_of_tokenize (h : (tokenize settings source).outcome = .ok ts) :
    ∀ t ∈ ts, t.IsCut := by
  intro t ht
  obtain ⟨k, text, hrun, hclassify⟩ := exists_run_of_mem h t ht
  exact hrun.isCut hclassify

theorem isCut_of_convert (hcut : ∀ t ∈ ts, t.IsCut) (h : convert ts = .ok us) :
    ∀ u ∈ us, u.IsCut :=
  fun u hu => hcut u (List.mem_filter.mp ((convert_perm h).subset hu)).1

theorem known_of_isCut (hcut : ∀ t ∈ ts, t.IsCut) : Known ts := fun _ hs => hcut _ hs

/-! ### No operator is unknown -/

theorem map_ne_error {α β : Type} {f : α → β} {x : Except Failure α} {e : Failure}
    (h : x ≠ .error e) : x.map f ≠ .error e := by
  cases x with
  | error e' =>
    rintro ⟨⟩
    exact h rfl
  | ok a => rintro ⟨⟩

theorem Known.convert_ne_unknownOperator (h : Known ts) (s : String) :
    convert ts ≠ .error (.unknownOperator s) := by
  intro hconvert
  have houtcome := h.convert_eq
  rw [hconvert] at houtcome
  split_ifs at houtcome
  all_goals cases houtcome

/-- Without a table a word may not be recognised; any other text is. -/
theorem classify_error {e : Failure} (h : classify functions text = .error e) :
    e = .missingTable := by
  unfold classify classifyWord at h
  split at h
  · cases h
  split at h
  · split at h
    · split at h
      all_goals cases h
    · split at h
      · cases h
        rfl
      · cases h
  split at h
  · cases h
  split at h
  all_goals cases h

theorem read_ne_unknownOperator (source : Source) (s : String) :
    source.read ≠ .error (.unknownOperator s) := by
  intro h
  unfold Source.read at h
  split at h
  any_goals cases h
  split at h
  all_goals cases h

theorem tokenize_ne_unknownOperator (settings : Settings) (source : Source) (s : String) :
    (tokenize settings source).outcome ≠ .error (.unknownOperator s) := by
  rw [outcome_tokenize]
  intro h
  obtain hread | ⟨text, -, h⟩ := cases_of_bind_eq_error h
  · exact read_ne_unknownOperator source s hread
  · obtain ⟨l, -, hclassify⟩ := exists_of_mapM_error h
    cases classify_error hclassify

theorem render_ne_unknownOperator (separator : Option String) (ts : List Token) (s : String) :
    render separator ts ≠ .error (.unknownOperator s) := by
  cases separator with
  | none => rintro ⟨⟩
  | some between => rintro ⟨⟩

/-- From a text to its postfix form no operator is unknown, whatever the settings. -/
theorem toPostfix_ne_unknownOperator (settings : Settings) (source : Source) (s : String) :
    (toPostfix settings source).outcome ≠ .error (.unknownOperator s) := by
  rw [outcome_stages]
  intro h
  obtain htokens | ⟨ts, htokens, h⟩ := cases_of_bind_eq_error h
  · exact tokenize_ne_unknownOperator settings source s htokens
  · have hknown := known_of_isCut (isCut_of_tokenize htokens)
    obtain hconvert | ⟨us, -, hrender⟩ := cases_of_bind_eq_error h
    · exact hknown.convert_ne_unknownOperator s hconvert
    · exact render_ne_unknownOperator settings.separator us s hrender

/-! ### Tokens in postfix order -/

theorem Token.not_paren_of_comesOut (t : Token) (h : t.comesOut = true) :
    t.isOpen = false ∧ t.isClose = false := by
  cases t with
  | leftParen s | rightParen s => cases h
  | _ => exact ⟨rfl, rfl⟩

/-- Tokens of the kinds that come out are reordered, whatever their order. -/
theorem Known.convert_of_comesOut (h : Known ts) (hout : ∀ t ∈ ts, t.comesOut = true) :
    ∃ us, convert ts = .ok us ∧ us.Perm ts ∧
      us.filter Token.isOperand = ts.filter Token.isOperand := by
  have hopen : ∀ t ∈ ts, t.isOpen = false := fun t ht => (t.not_paren_of_comesOut (hout t ht)).1
  have hclose : ∀ t ∈ ts, t.isClose = false := fun t ht => (t.not_paren_of_comesOut (hout t ht)).2
  have hnotOver : ¬ Overclosed Token.isOpen Token.isClose ts := by
    rintro ⟨p, hp, hlt⟩
    have hzero : p.countP Token.isClose = 0 :=
      List.countP_eq_zero.mpr fun t ht => by simp [hclose t (hp.subset ht)]
    omega
  have houtcome := h.convert_eq
  rw [if_neg hnotOver, countP_isOpen_eq_zero hopen, if_neg (Nat.not_lt_zero _)] at houtcome
  cases hconvert : convert ts with
  | error e =>
    rw [hconvert] at houtcome
    cases houtcome
  | ok us =>
    have hperm := convert_perm hconvert
    rw [List.filter_eq_self.mpr hout] at hperm
    exact ⟨us, rfl, hperm, convert_operands hconvert⟩

/-! ### Single commands -/

/-- Commands that cut up a text. -/
def Command.reads : Command → Bool
  | .tokenize _ | .retokenize => true
  | _ => false

namespace Session

variable {s : Session} {c : Command}

theorem outcome_tokenize (s : Session) (source : Source) :
    (s.apply (.tokenize source)).outcome =
      (ShuntingYard.tokenize s.settings source).outcome.map s.hold :=
  Traced.outcome_bind_pure _ _

theorem outcome_retokenize (s : Session) : (s.apply .retokenize).outcome =
    (ShuntingYard.tokenize s.settings (.text s.text)).outcome.map s.hold :=
  Traced.outcome_bind_pure _ _

theorem outcome_convert (s : Session) :
    (s.apply .convert).outcome = (ShuntingYard.convert s.tokens).map s.hold := by
  rw [← outcome_reorder]
  exact Traced.outcome_bind_pure _ _

theorem outcome_render (s : Session) : (s.apply .render).outcome =
    (ShuntingYard.render s.settings.separator s.tokens).map fun text =>
      (.text text, { s with text }) :=
  Traced.outcome_bind_pure (Traced.ofExcept (ShuntingYard.render s.settings.separator s.tokens)) _

theorem outcome_toPostfix (s : Session) (source : Source) : (s.apply (.toPostfix source)).outcome =
    (ShuntingYard.toPostfix s.settings source).outcome.map fun text => (.text text, s) :=
  Traced.outcome_bind_pure _ _

theorem outcome_reply (s : Session) (c : Command) :
    (s.reply c).outcome = (s.apply c).outcome.map Prod.fst := by
  rw [reply, map_eq_pure_bind]
  exact Traced.outcome_bind_pure _ _

theorem after_of_error {e : Failure} (h : (s.apply c).outcome = .error e) : s.after c = s := by
  rw [after, h]

theorem after_of_ok {r : Reply} {next : Session} (h : (s.apply c).outcome = .ok (r, next)) :
    s.after c = next := by
  rw [after, h]

/-- A command that gives tokens makes them the current ones, or fails and changes nothing. -/
theorem hold_cases {x : Except Failure (List Token)} (h : (s.apply c).outcome = x.map s.hold) :
    (∃ e, x = .error e ∧ s.after c = s ∧ (s.reply c).outcome = .error e) ∨
    ∃ ts, x = .ok ts ∧ (s.after c).tokens = ts ∧ (s.reply c).outcome = .ok (.tokens ts) := by
  have hreply := outcome_reply s c
  rw [h] at hreply
  cases x with
  | error e => exact .inl ⟨e, rfl, after_of_error h, hreply⟩
  | ok ts => exact .inr ⟨ts, rfl, by rw [after_of_ok h], hreply⟩

/-- A command that does without the current tokens leaves them, also when it fails. -/
theorem tokens_eq_of_map {α : Type} {x : Except Failure α} {f : α → Reply × Session}
    (h : (s.apply c).outcome = x.map f) (hf : ∀ a, (f a).2.tokens = s.tokens) :
    (s.after c).tokens = s.tokens := by
  cases x with
  | error e => rw [after_of_error h]
  | ok a => rw [after_of_ok h, hf]

/-- What becomes of the current tokens: they stay, or a text was cut up, or they were reordered. -/
theorem tokens_after (s : Session) (c : Command) : (s.after c).tokens = s.tokens ∨
    (c.reads = true ∧ (s.reply c).outcome = .ok (.tokens (s.after c).tokens) ∧
      ∃ source, (ShuntingYard.tokenize s.settings source).outcome = .ok (s.after c).tokens) ∨
    ShuntingYard.convert s.tokens = .ok (s.after c).tokens := by
  cases c with
  | reset | define name arity | forget name | separateBy separator => exact .inl rfl
  | tokenize source =>
    rcases hold_cases (outcome_tokenize s source) with ⟨e, -, h, -⟩ | ⟨ts, htokens, rfl, hreply⟩
    · exact .inl (congrArg tokens h)
    · exact .inr (.inl ⟨rfl, hreply, source, htokens⟩)
  | retokenize =>
    rcases hold_cases (outcome_retokenize s) with ⟨e, -, h, -⟩ | ⟨ts, htokens, rfl, hreply⟩
    · exact .inl (congrArg tokens h)
    · exact .inr (.inl ⟨rfl, hreply, _, htokens⟩)
  | convert =>
    rcases hold_cases (outcome_convert s) with ⟨e, -, h, -⟩ | ⟨ts, hconvert, rfl, -⟩
    · exact .inl (congrArg tokens h)
    · exact .inr (.inr hconvert)
  | render => exact .inl (tokens_eq_of_map (outcome_render s) fun _ => rfl)
  | toPostfix source => exact .inl (tokens_eq_of_map (outcome_toPostfix s source) fun _ => rfl)

/-- The current tokens are still such as are cut from a text. -/
theorem isCut_after (h : ∀ t ∈ s.tokens, t.IsCut) (c : Command) :
    ∀ t ∈ (s.after c).tokens, t.IsCut := by
  rcases tokens_after s c with hsame | ⟨-, -, source, htokens⟩ | hconvert
  · rwa [hsame]
  · exact isCut_of_tokenize htokens
  · exact isCut_of_convert h hconvert

/-- No command meets an unknown operator. -/
theorem reply_ne_unknownOperator (h : ∀ t ∈ s.tokens, t.IsCut) (c : Command) (text : String) :
    (s.reply c).outcome ≠ .error (.unknownOperator text) := by
  rw [outcome_reply]
  refine map_ne_error ?_
  cases c with
  | reset | define name arity | forget name | separateBy separator => rintro ⟨⟩
  | tokenize source =>
    rw [outcome_tokenize]
    exact map_ne_error (tokenize_ne_unknownOperator _ _ text)
  | retokenize =>
    rw [outcome_retokenize]
    exact map_ne_error (tokenize_ne_unknownOperator _ _ text)
  | convert =>
    rw [outcome_convert]
    exact map_ne_error ((known_of_isCut h).convert_ne_unknownOperator text)
  | render =>
    rw [outcome_render]
    exact map_ne_error (render_ne_unknownOperator _ _ text)
  | toPostfix source =>
    rw [outcome_toPostfix]
    exact map_ne_error (toPostfix_ne_unknownOperator _ _ text)

/-! ### Lists of commands -/

theorem isCut_afterAll (cs : List Command) : ∀ {s : Session}, (∀ t ∈ s.tokens, t.IsCut) →
    ∀ t ∈ (s.afterAll cs).tokens, t.IsCut := by
  induction cs with
  | nil => exact id
  | cons c cs ih => exact fun h => ih (isCut_after h c)

/-- None of the commands makes the tokens of a text the current ones: it cuts up none, or fails. -/
def Unread (s : Session) : List Command → Prop
  | [] => True
  | c :: cs => (c.reads = true → ∃ e, (s.reply c).outcome = .error e) ∧ (s.after c).Unread cs

/-- The current tokens could be those of a postfix form. -/
def Postfix (s : Session) : Prop := ∀ t ∈ s.tokens, t.IsCut ∧ t.comesOut = true

theorem Postfix.after (h : s.Postfix)
    (hread : c.reads = true → ∃ e, (s.reply c).outcome = .error e) : (s.after c).Postfix := by
  rcases tokens_after s c with hsame | ⟨hreads, hreply, -⟩ | hconvert
  · rwa [Postfix, hsame]
  · -- tokens of a text would have been the reply
    obtain ⟨e, herror⟩ := hread hreads
    rw [herror] at hreply
    cases hreply
  · intro t ht
    exact h t (List.mem_filter.mp ((convert_perm hconvert).subset ht)).1

theorem Postfix.afterAll (cs : List Command) : ∀ {s : Session}, s.Postfix → s.Unread cs →
    (s.afterAll cs).Postfix := by
  induction cs with
  | nil => exact fun h _ => h
  | cons c cs ih => exact fun h hunread => ih (h.after hunread.1) hunread.2

end Session

/-- Whatever is asked of a session, its current tokens are such as are cut from a text, and no
    operator is unknown. Once they are in postfix order they can be reordered again, by which each
    token is kept and operands stay in their order, until the tokens of a text take their place. -/
theorem session_safe (cs : List Command) :
    let s := Session.afterAll {} cs
    (∀ t ∈ s.tokens, t.IsCut) ∧
    (∀ c text, (s.reply c).outcome ≠ .error (.unknownOperator text)) ∧
    ∀ us, (s.reply .convert).outcome = .ok (.tokens us) → ∀ ds, (s.after .convert).Unread ds →
      let s' := (s.after .convert).afterAll ds
      ∃ vs, (s'.reply .convert).outcome = .ok (.tokens vs) ∧ (s'.after .convert).tokens = vs ∧
        vs.Perm s'.tokens ∧ vs.filter Token.isOperand = s'.tokens.filter Token.isOperand := by
  intro s
  have hcut : ∀ t ∈ s.tokens, t.IsCut := Session.isCut_afterAll cs (by simp)
  refine ⟨hcut, Session.reply_ne_unknownOperator hcut, fun us hreply ds hunread => ?_⟩
  intro s'
  have hpostfix : (s.after .convert).Postfix := by
    rcases Session.hold_cases (Session.outcome_convert s) with
      ⟨e, -, -, herror⟩ | ⟨ts, hconvert, htokens, -⟩
    · rw [herror] at hreply
      cases hreply
    · intro t ht
      rw [htokens] at ht
      exact ⟨isCut_of_convert hcut hconvert t ht,
        (List.mem_filter.mp ((convert_perm hconvert).subset ht)).2⟩
  have hpostfix' : s'.Postfix := hpostfix.afterAll ds hunread
  have hknown : Known s'.tokens := known_of_isCut fun t ht => (hpostfix' t ht).1
  obtain ⟨vs, hconvert, hperm, hoperands⟩ :=
    hknown.convert_of_comesOut fun t ht => (hpostfix' t ht).2
  rcases Session.hold_cases (Session.outcome_convert s') with
    ⟨e, herror, -, -⟩ | ⟨ts, hts, htokens, hreply'⟩
  · rw [hconvert] at herror
    cases herror
  · obtain rfl : vs = ts := Except.ok.inj (hconvert.symm.trans hts)
    exact ⟨vs, hreply', htokens, hperm, hoperands⟩

/-- What is written out, what is tried in vain and what is forgotten make no difference. -/
theorem session_safe_forgotten :
    let cs : List Command := [.define "f" 2, .tokenize (.text "f(2)^(x+y)")]
    let ds : List Command := [.separateBy (some "7"), .render, .tokenize (.integer 4), .convert,
      .forget "f"]
    let s := Session.afterAll {} cs
    let s' := (s.after .convert).afterAll ds
    (∃ us, (s.reply .convert).outcome = .ok (.tokens us)) ∧ (s.after .convert).Unread ds ∧
      s'.text = "27f7x7y7+7^" ∧
      ∃ vs, (s'.reply .convert).outcome = .ok (.tokens vs) ∧ vs.Perm s'.tokens := by
  intro cs ds s s'
  have hreply : (s.reply .convert).outcome = .ok (.tokens [.number "2", .function "f" 2,
      .identifier "x", .identifier "y", .operator "+", .operator "^"]) := by
    decide +kernel
  have hunread : (s.after .convert).Unread ds :=
    ⟨nofun, nofun, fun _ => ⟨.notText .integer, rfl⟩, nofun, nofun, trivial⟩
  obtain ⟨-, -, hagain⟩ := session_safe cs
  obtain ⟨vs, hreply', -, hperm, -⟩ := hagain _ hreply ds hunread
  exact ⟨⟨_, hreply⟩, hunread, by decide +kernel, vs, hreply', hperm⟩

end ShuntingYard
