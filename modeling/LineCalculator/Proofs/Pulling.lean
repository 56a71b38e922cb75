/-
Tokens pulled one at a time.

A text is read into a tree token by token, so that a fault of its characters and a fault in the
order of its tokens race for the report.  Whichever is met first wins, and a token is met only once
its last character is read: building from the finished list of the tokens that can be read, and
then looking at what stopped the reading, gives the same answer.

* `build` — the tree of a finished list of tokens;
* `growTree_error` — a list of tokens has faults of a kind of its own;
* `parse_eq_build` — pulling tokens while building agrees with building afterwards.
-/
import LineCalculator.Proofs.Adjacency

namespace LineCalculator

/-- The tree of a finished list of tokens. -/
def build (ts : List Token) : Except ParseError Expr :=
  (growTree .hole ts).bind atEnd

/-- A list of tokens is refused at a token only. -/
theorem growTree_error {ts : List Token} {e : ParseError} (h : growTree .hole ts = .error e) :
    ∃ k, e = .malformed k := by
  obtain ⟨-, t, -, -, -, -, -, rfl⟩ := exists_refused_of_growTree h
  exact ⟨t.position, rfl⟩

/-- A finished list of tokens is taken in whole. -/
theorem growTree_of_build {ts : List Token} {t : Expr} (h : build ts = .ok t) :
    growTree .hole ts = .ok t := by
  rw [build] at h
  cases hg : growTree .hole ts with
  | error e => rw [hg] at h; cases h
  | ok grown =>
    rw [hg] at h
    change atEnd grown = .ok t at h
    rw [atEnd] at h
    split at h
    · cases h
    · exact h

/-- A list of tokens has the fault of a token if it has it before anything is asked about the
end. -/
theorem build_eq_malformed_iff {ts : List Token} {k : Nat} :
    build ts = .error (.malformed k) ↔ growTree .hole ts = .error (.malformed k) := by
  rw [build]
  cases growTree .hole ts with
  | error e => exact Iff.rfl
  | ok t =>
    -- at the end a tree can only turn out to be empty
    show atEnd t = _ ↔ _
    rw [atEnd]
    split <;> simp

/-- A list of tokens has no fault of a character. -/
theorem build_ne_stray (ts : List Token) (c : Char) (k : Nat) :
    build ts ≠ .error (.stray c k) := by
  intro h
  rw [build] at h
  cases hg : growTree .hole ts with
  | error e =>
    obtain ⟨k', rfl⟩ := growTree_error hg
    rw [hg] at h
    cases h
  | ok t =>
    rw [hg] at h
    change atEnd t = _ at h
    rw [atEnd] at h
    split at h <;> cases h

/-- The tokens of one kind that a fault of a list of tokens tells of. -/
theorem meetAt_of_growTree_malformed {ts : List Token} {k : Nat}
    (h : growTree .hole ts = .error (.malformed k)) :
    ∃ i t, MeetAt (ts.map Token.lexeme) i ∧ ts[i + 1]? = some t ∧ t.position = k := by
  rcases growTree_cases ts with ⟨t, ht, -⟩ | ⟨i, t, hi, ht, herr⟩
  · rw [h] at ht
    cases ht
  · rw [h] at herr
    cases herr
    exact ⟨i, t, hi.1.1, ht, rfl⟩

section Stopped

variable {source : List Char} {e : ParseError}

/-- If the reading is stopped, then what was built up to there is lost, and a refused token is
reported ahead of what stopped the reading. -/
theorem parse_of_tokenize_error (h : tokenize source = .error e) :
    parse source = (growTree .hole (readTokens 0 source).tokens).bind fun _ => .error e := by
  rw [tokenize] at h
  rw [parse, readTree_outcome, h]
  rfl

theorem parse_eq_malformed_iff_of_stopped (h : tokenize source = .error e) {k : Nat} :
    parse source = .error (.malformed k) ↔
      growTree .hole (readTokens 0 source).tokens = .error (.malformed k) := by
  obtain ⟨c, k', rfl⟩ := readTokens_error h
  rw [parse_of_tokenize_error h]
  cases growTree .hole (readTokens 0 source).tokens with
  | error e' => exact Iff.rfl
  | ok t =>
    constructor
    · intro herr
      cases herr
    · intro herr
      cases herr

theorem parse_of_stopped_of_not_malformed (h : tokenize source = .error e)
    (hg : ∀ k, growTree .hole (readTokens 0 source).tokens ≠ .error (.malformed k)) :
    parse source = .error e := by
  rw [parse_of_tokenize_error h]
  cases hb : growTree .hole (readTokens 0 source).tokens with
  | ok t => rfl
  | error e' =>
    obtain ⟨k, rfl⟩ := growTree_error hb
    exact absurd hb (hg k)

/-- A text whose reading is stopped has a fault of its characters or of its tokens. -/
theorem parse_of_stopped (h : tokenize source = .error e) :
    ∃ e', parse source = .error e' ∧ e' ≠ .empty := by
  by_cases hg : ∃ k, growTree .hole (readTokens 0 source).tokens = .error (.malformed k)
  · obtain ⟨k, hk⟩ := hg
    exact ⟨_, (parse_eq_malformed_iff_of_stopped h).mpr hk, by simp⟩
  · refine ⟨e, parse_of_stopped_of_not_malformed h fun k hk => hg ⟨k, hk⟩, ?_⟩
    obtain ⟨c, k, rfl⟩ := readTokens_error h
    simp

end Stopped

/-- A text has the fault of a token if the tokens that can be read have it. -/
theorem parse_eq_malformed_iff {source : List Char} {k : Nat} :
    parse source = .error (.malformed k) ↔
      growTree .hole (readTokens 0 source).tokens = .error (.malformed k) := by
  cases h : tokenize source with
  | error e => exact parse_eq_malformed_iff_of_stopped h
  | ok ts =>
    rw [parse_of_tokenize h, tokens_of_readTokens_ok h]
    exact build_eq_malformed_iff

/-- **Pulling tokens agrees with reading them first.**  If all tokens of a text can be read, the
text is read into what they build.  If a stray character stops the reading, the answer is the
refused token that the tokens before it have, if they have one, and otherwise that character: never
a tree, never the fault of an empty text, and a pair of tokens only if both were read to their
ends. -/
theorem parse_eq_build (source : List Char) :
    (∀ ts, tokenize source = .ok ts → parse source = build ts) ∧
      ∀ e, tokenize source = .error e →
        (∃ c k, e = .stray c k) ∧
        (∀ k, build (readTokens 0 source).tokens = .error (.malformed k) →
          parse source = .error (.malformed k)) ∧
        ((∀ k, build (readTokens 0 source).tokens ≠ .error (.malformed k)) →
          parse source = .error e) ∧
        (∀ t, parse source ≠ .ok t) ∧ parse source ≠ .error .empty ∧
        ∀ k, parse source = .error (.malformed k) →
          ∃ i t, MeetAt ((readTokens 0 source).tokens.map Token.lexeme) i ∧
            (readTokens 0 source).tokens[i + 1]? = some t ∧ t.position = k := by
  refine ⟨fun ts h => parse_of_tokenize h, ?_⟩
  intro e h
  obtain ⟨e', herr, hne⟩ := parse_of_stopped h
  refine ⟨readTokens_error h, ?_, ?_, ?_, ?_, ?_⟩
  · intro k hk
    exact (parse_eq_malformed_iff_of_stopped h).mpr (build_eq_malformed_iff.mp hk)
  · intro hno
    exact parse_of_stopped_of_not_malformed h fun k hk => hno k (build_eq_malformed_iff.mpr hk)
  · intro t ht
    rw [herr] at ht
    cases ht
  · intro hempty
    rw [herr] at hempty
    cases hempty
    exact hne rfl
  · intro k hk
    exact meetAt_of_growTree_malformed ((parse_eq_malformed_iff_of_stopped h).mp hk)

/-- The text `1 2x`, in which two numbers meet ahead of a stray character. -/
def doubledText : List Char := ['1', ' ', '2', 'x']

/-- The text `1 2..`, in which the second of two numbers cannot be read to its end. -/
def brokenText : List Char := ['1', ' ', '2', '.', '.']

theorem parse_eq_build_doubledText_brokenText :
    (tokenize doubledText = .error (.stray 'x' 3) ∧
        parse doubledText = .error (.malformed 2)) ∧
      tokenize brokenText = .error (.stray '.' 4) ∧ parse brokenText = .error (.stray '.' 4) := by
  have hdoubled : readTokens 0 doubledText =
      ⟨.error (.stray 'x' 3), [.lexed ⟨.number (figureNumber '1'), 0⟩,
        .lexed ⟨.number (figureNumber '2'), 2⟩], 4⟩ := by
    rw [doubledText]
    repeat rw [readTokens_of_token rfl]
    rw [readTokens_of_stray rfl]
    rfl
  have hbroken : readTokens 0 brokenText =
      ⟨.error (.stray '.' 4), [.lexed ⟨.number (figureNumber '1'), 0⟩], 4⟩ := by
    rw [brokenText]
    rw [readTokens_of_token rfl, readTokens_of_stray rfl]
    rfl
  refine ⟨⟨?_, ?_⟩, ?_, ?_⟩
  · rw [tokenize, hdoubled]
  · refine ((parse_eq_build doubledText).2 (.stray 'x' 3) (by rw [tokenize, hdoubled])).2.1 2 ?_
    rw [hdoubled]
    rfl
  · rw [tokenize, hbroken]
  · refine ((parse_eq_build brokenText).2 (.stray '.' 4) (by rw [tokenize, hbroken])).2.2.1 ?_
    intro k hk
    rw [hbroken] at hk
    cases hk

end LineCalculator
