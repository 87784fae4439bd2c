import ShuntingYard.Proofs.Feed
import ShuntingYard.Stages

/-! The stages seen from their outcomes. The tokens of a text are what its lexemes are recognised as,
    and what is logged on the way are the gaps in front of the lexemes. Once a text has been cut into
    tokens, only reordering can fail, and what it logs is its own. -/

namespace ShuntingYard

/-! ### Outcomes and logs -/

namespace Traced

variable {α β : Type} {x : Traced α} {a : α}

theorem outcome_bind (h : x.outcome = .ok a) (f : α → Traced β) :
    (x >>= f).outcome = (f a).outcome := by
  rw [bind_of_ok h]

theorem log_bind (h : x.outcome = .ok a) (f : α → Traced β) :
    (x >>= f).log = x.log ++ (f a).log := by
  rw [bind_of_ok h]

/-- Whether a computation succeeds does not depend on what is logged. -/
theorem outcome_bind_eq (x : Traced α) (f : α → Traced β) :
    (x >>= f).outcome = x.outcome.bind fun a => (f a).outcome := by
  cases h : x.outcome with
  | error e =>
    rw [bind_of_error h]
    rfl
  | ok a => exact outcome_bind h f

/-- Changing the result of a computation changes nothing else. -/
theorem map_eq (f : α → β) (x : Traced α) : f <$> x = ⟨x.log, x.outcome.map f⟩ := by
  rw [map_eq_pure_bind]
  cases h : x.outcome with
  | error e => exact bind_of_error h _
  | ok a => exact (bind_of_ok h _).trans (congrArg (Traced.mk · _) (List.append_nil _))

theorem outcome_bind_pure (x : Traced α) (f : α → β) :
    (x >>= fun a => pure (f a)).outcome = x.outcome.map f := by
  rw [outcome_bind_eq]
  cases x.outcome <;> rfl

theorem outcome_mapM (f : α → Traced β) :
    ∀ l : List α, (l.mapM f).outcome = l.mapM fun a => (f a).outcome
  | [] => rfl
  | a :: l => by
    rw [List.mapM_cons, List.mapM_cons, outcome_bind_eq, ← outcome_mapM f l]
    simp only [outcome_bind_eq]
    rfl

/-- Computations that all succeed log one after another. -/
theorem log_mapM {f : α → Traced β} : ∀ {l : List α} {bs : List β}, (l.mapM f).outcome = .ok bs →
    (l.mapM f).log = l.flatMap fun a => (f a).log
  | [], _, _ => rfl
  | a :: l, bs, h => by
    rw [List.mapM_cons] at h ⊢
    rw [outcome_bind_eq] at h
    obtain ⟨b, ha, h⟩ := exists_of_bind_eq_ok h
    rw [outcome_bind_eq] at h
    obtain ⟨bs', hl, -⟩ := exists_of_bind_eq_ok h
    rw [log_bind ha, log_bind hl, log_mapM hl, log_pure, List.append_nil, List.flatMap_cons]

/-- Computations log one after another, up to where one fails. -/
theorem prefix_log_mapM (f : α → Traced β) :
    ∀ l : List α, (l.mapM f).log <+: l.flatMap fun a => (f a).log
  | [] => List.nil_prefix
  | a :: l => by
    rw [List.mapM_cons, List.flatMap_cons]
    cases ha : (f a).outcome with
    | error e =>
      rw [bind_of_error ha]
      exact List.prefix_append _ _
    | ok b =>
      rw [log_bind ha, bind_pure_comp, map_eq]
      exact (List.prefix_append_right_inj _).mpr (prefix_log_mapM f l)

end Traced

/-- Computations one after another stop at the first that fails, and what they logged up to there
    stays. -/
theorem Traced.mapM_of_error {α β : Type} {f : α → Traced β} {l : α} {e : Failure} (ms : List α)
    (hl : (f l).outcome = .error e) : ∀ {ls : List α}, (∀ a ∈ ls, ∃ b, (f a).outcome = .ok b) →
      (ls ++ l :: ms).mapM f = ⟨(ls ++ [l]).flatMap fun a => (f a).log, .error e⟩
  | [], _ => by
    rw [List.nil_append, List.mapM_cons, bind_of_error hl]
    simp
  | a :: ls, hls => by
    obtain ⟨⟨b, hb⟩, hls⟩ := List.forall_mem_cons.mp hls
    have ih := mapM_of_error ms hl hls
    rw [List.cons_append, List.mapM_cons, bind_of_ok hb, ih, bind_of_error rfl]
    rfl

/-- A sequence of computations succeeds when each of them does. -/
theorem mapM_eq_ok {α β : Type} {f : α → Except Failure β} {l : List α} {bs : List β}
    (h : l.map f = bs.map .ok) : l.mapM f = .ok bs := by
  have hid : (bs.map Except.ok).mapM id = (Except.ok bs : Except Failure (List β)) := by
    rw [List.mapM_map]
    exact List.mapM_pure.trans (by rw [List.map_id']; rfl)
  rwa [← h, List.mapM_map] at hid

/-- What a sequence of computations gives, one of them gave. -/
theorem exists_of_mem_mapM {α β : Type} {f : α → Except Failure β} :
    ∀ {l : List α} {bs : List β}, l.mapM f = .ok bs → ∀ b ∈ bs, ∃ a ∈ l, f a = .ok b
  | [], bs, h, b, hb => by
    cases h
    cases hb
  | a :: l, bs, h, b, hb => by
    rw [List.mapM_cons] at h
    obtain ⟨b', hb', h⟩ := exists_of_bind_eq_ok h
    obtain ⟨bs', hbs', h⟩ := exists_of_bind_eq_ok h
    cases h
    rcases List.mem_cons.mp hb with rfl | hb
    · exact ⟨a, List.mem_cons_self, hb'⟩
    · obtain ⟨a', ha', hf⟩ := exists_of_mem_mapM hbs' b hb
      exact ⟨a', List.mem_cons_of_mem _ ha', hf⟩

/-- A sequence of computations fails as one of them does. -/
theorem exists_of_mapM_error {α β : Type} {f : α → Except Failure β} {e : Failure} :
    ∀ {l : List α}, l.mapM f = .error e → ∃ a ∈ l, f a = .error e
  | [], h => by cases h
  | a :: l, h => by
    rw [List.mapM_cons] at h
    obtain ha | ⟨b, -, h⟩ := cases_of_bind_eq_error h
    · exact ⟨a, List.mem_cons_self, ha⟩
    · obtain hl | ⟨bs, -, h⟩ := cases_of_bind_eq_error h
      · obtain ⟨a', ha', hf⟩ := exists_of_mapM_error hl
        exact ⟨a', List.mem_cons_of_mem _ ha', hf⟩
      · cases h

variable {settings : Settings} {source : Source} {ts us : List Token} {text : String}

/-! ### Tokens of a text -/

/-- What is logged before a lexeme becomes a token: the gap in front of it, if there is one. -/
def Lexeme.drops (l : Lexeme) : List Event :=
  if l.gap.isEmpty then [] else [.dropped (.ofList l.gap)]

theorem Lexeme.toToken_eq (functions : Option FunctionTable) (l : Lexeme) :
    l.toToken functions = ⟨l.drops, classify functions l.text⟩ := by
  unfold Lexeme.toToken Lexeme.drops
  cases l.gap.isEmpty <;> cases classify functions l.text <;> rfl

/-- A text is worked through lexeme by lexeme. -/
theorem tokenize_text (hne : text ≠ "") (settings : Settings) :
    tokenize settings (.text text) =
      (Scan.ofChars text.toList).lexemes.mapM (Lexeme.toToken settings.functions) := by
  rw [tokenize, Source.read_text hne]
  exact pure_bind text _

/-- The tokens of a text are what its lexemes are recognised as. -/
theorem outcome_tokenize (settings : Settings) (source : Source) :
    (tokenize settings source).outcome = source.read.bind fun text =>
      (Scan.ofChars text.toList).lexemes.mapM fun l => classify settings.functions l.text := by
  rw [tokenize, Traced.outcome_bind_eq]
  simp only [Traced.outcome_mapM, Lexeme.toToken_eq]
  rfl

/-- What is logged when all lexemes of a text are recognised. -/
theorem log_tokenize (hread : source.read = .ok text)
    (h : (tokenize settings source).outcome = .ok ts) :
    (tokenize settings source).log = (Scan.ofChars text.toList).lexemes.flatMap Lexeme.drops := by
  have hfirst : (Traced.ofExcept source.read).outcome = .ok text := hread
  rw [tokenize, Traced.outcome_bind hfirst] at h
  rw [tokenize, Traced.log_bind hfirst, Traced.log_mapM h]
  simp only [Lexeme.toToken_eq]
  rfl

/-- What is logged on the way through a text, whether or not all its lexemes are recognised. -/
theorem prefix_log_tokenize (hne : text ≠ "") (settings : Settings) :
    (tokenize settings (.text text)).log <+:
      (Scan.ofChars text.toList).lexemes.flatMap Lexeme.drops := by
  have h := Traced.prefix_log_mapM (Lexeme.toToken settings.functions)
    (Scan.ofChars text.toList).lexemes
  rw [← tokenize_text hne] at h
  simpa only [Lexeme.toToken_eq] using h

/-! ### From the tokens on -/

/-- Where the tokens are from has no part in what is made of them. -/
theorem toPostfix_congr {settings' : Settings} {source' : Source}
    (htokens : tokenize settings source = tokenize settings' source')
    (hseparator : settings.separator = settings'.separator) :
    toPostfix settings source = toPostfix settings' source' := by
  rw [toPostfix, toPostfix, stages, stages, htokens, hseparator]

theorem outcome_reorder (ts : List Token) : (reorder ts).outcome = convert ts := by
  rw [reorder]
  cases convert ts <;> rfl

/-- What is logged when reordering succeeds. -/
theorem reorder_eq_ok (h : convert ts = .ok us) :
    reorder ts = ⟨[.converted ts.length us.length], .ok us⟩ := by
  rw [reorder, h]
  rfl

theorem reorder_eq_error {e : Failure} (h : convert ts = .error e) :
    reorder ts = ⟨[], .error e⟩ := by
  rw [reorder, h]
  rfl

/-- The stages one after the other. -/
theorem outcome_stages (settings : Settings) (source : Source) :
    (toPostfix settings source).outcome = (tokenize settings source).outcome.bind fun ts =>
      (convert ts).bind (render settings.separator) := by
  rw [toPostfix, stages]
  dsimp only
  rw [bind_assoc, Traced.outcome_bind_eq]
  simp only [Traced.outcome_bind_eq, outcome_reorder]
  rfl

/-- From the tokens on, reordering and writing out decide what becomes of a text. -/
theorem toPostfix_of_tokens {log : List Event} (h : tokenize settings source = ⟨log, .ok ts⟩) :
    toPostfix settings source = match convert ts with
      | .error e => ⟨log, .error e⟩
      | .ok us => ⟨log ++ [.converted ts.length us.length], render settings.separator us⟩ := by
  have hreorder : (⟨log, .ok ts⟩ : Traced (List Token)) >>= reorder =
      ⟨log ++ (reorder ts).log, (reorder ts).outcome⟩ := Traced.bind_of_ok rfl reorder
  rw [toPostfix, stages]
  dsimp only
  rw [h, hreorder]
  cases hconvert : convert ts with
  | error e =>
    rw [reorder_eq_error hconvert, List.append_nil]
    exact Traced.bind_of_error rfl _
  | ok us =>
    rw [reorder_eq_ok hconvert]
    refine (Traced.bind_of_ok rfl _).trans ?_
    exact congrArg (Traced.mk · _) (List.append_nil _)

/-- A text that cannot be cut into tokens has no postfix form, for the same reason. -/
theorem toPostfix_of_error {log : List Event} {e : Failure}
    (h : tokenize settings source = ⟨log, .error e⟩) :
    toPostfix settings source = ⟨log, .error e⟩ := by
  rw [toPostfix, stages]
  dsimp only
  rw [h, Traced.bind_of_error rfl, Traced.bind_of_error rfl]

/-- What is logged once there are tokens is that they have been reordered. -/
theorem log_toPostfix (settings : Settings) (source : Source) :
    ∃ rest, (toPostfix settings source).log = (tokenize settings source).log ++ rest ∧
      ∀ e ∈ rest, ∃ read written, e = .converted read written := by
  cases h : (tokenize settings source).outcome with
  | error e =>
    refine ⟨[], ?_, by simp⟩
    rw [toPostfix_of_error (Traced.ext rfl h), List.append_nil]
  | ok ts =>
    rw [toPostfix_of_tokens (Traced.ext rfl h)]
    cases convert ts with
    | error e => exact ⟨[], (List.append_nil _).symm, by simp⟩
    | ok us => exact ⟨[.converted ts.length us.length], rfl, by simp⟩

/-- From the tokens on, a text has a postfix form when its tokens do. -/
theorem outcome_toPostfix {separator : String}
    (htokens : (tokenize settings source).outcome = .ok ts)
    (hseparator : settings.separator = some separator) : (toPostfix settings source).outcome =
      (convert ts).map fun us => separator.intercalate (us.map Token.text) := by
  rw [outcome_stages, htokens, hseparator, Except.bind]
  cases convert ts <;> rfl

end ShuntingYard
