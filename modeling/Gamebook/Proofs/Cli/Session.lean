import Gamebook.Proofs.Cli.Answering

/-!
Sessions at the console that start where nothing is saved. Answers lead from screen to screen until
the session is left, its lines come to an end, or an answer derails it.
-/
namespace Gamebook.Cli

variable {setting : Setting} {library : Library} {now : Timestamp} {console after : Console}
  {screen : Screen} {failure : Failure}

/-- Leads from one screen to another by answers that are taken one after the other. -/
inductive Leads [Host] (setting : Setting) (now : Timestamp) :
    Screen → Console → List String → Screen → Console → Prop
  | stays {screen : Screen} {console : Console} : Leads setting now screen console [] screen console
  | answers {screen next last : Screen} {console between after : Console} {line : String}
      {lines : List String} (answered : respond setting now screen line console = .ok next between)
      (leads : Leads setting now next between lines last after) :
      Leads setting now screen console (line :: lines) last after

/-- Where a session gets by answering lines. -/
def Reaches [Host] (setting : Setting) (now : Timestamp) (console : Console) (lines : List String)
    (screen : Screen) (after : Console) : Prop :=
  ∃ opened, welcome console = .ok .mainMenu opened ∧
    Leads setting now .mainMenu opened lines screen after

theorem reaches_iff [Host] {opened : Console} (welcomed : welcome console = .ok .mainMenu opened)
    {lines : List String} : Reaches setting now console lines screen after ↔
      Leads setting now .mainMenu opened lines screen after := by
  constructor
  · rintro ⟨_, welcome, leads⟩
    cases welcomed.symm.trans welcome
    exact leads
  · exact fun leads => ⟨opened, welcomed, leads⟩

section converse
variable {last : Screen} {lines : List String}

theorem Leads.fits [Host] (offers : setting.Offers library) (aware : now.IsAware)
    (leads : Leads setting now screen console lines last after)
    (typed : ∀ line ∈ lines, Text.isPlain line = true) (fits : Fits setting library console screen) :
    Fits setting library after last := by
  induction leads with
  | stays => exact fits
  | answers answered _ ih =>
    obtain ⟨first, rest⟩ := List.forall_mem_cons.mp typed
    exact ih rest (respond_fits offers aware first fits answered)

theorem Leads.next_fails [Host] (offers : setting.Offers library) (aware : now.IsAware)
    (leads : Leads setting now screen console lines last after) {line : String} {rest : List String}
    (typed : ∀ answer ∈ lines ++ line :: rest, Text.isPlain answer = true)
    (fits : Fits setting library console screen) :
    FailsWith (respond setting now last line) after failure ↔
      Derails setting library now after last (answerOf line) failure := by
  obtain ⟨earlier, later⟩ := List.forall_mem_append.mp typed
  exact respond_failsWith offers aware (later line (.head _)) (leads.fits offers aware earlier fits)

theorem Leads.of_done [Host] (leads : Leads setting now screen console lines last after)
    (done : screen = .done) : last = .done := by
  induction leads with
  | stays => exact done
  | answers answered _ ih =>
    subst done
    exact ih (draw_pure_eq_ok.mp answered).1.symm

theorem converse_nil [Host] (waits : screen ≠ .done) :
    converse setting now screen [] = throw (.fault .inputEnded) := by
  cases screen <;> first | rfl | exact absurd rfl waits

theorem converse_cons [Host] (waits : screen ≠ .done) (line : String) :
    converse setting now screen (line :: lines) = (do
      converse setting now (← respond setting now screen line) lines) := by
  cases screen <;> first | rfl | exact absurd rfl waits

theorem converse_eq_ok [Host] : (∃ after, converse setting now screen lines console = .ok () after) ↔
    ∃ before rest after, lines = before ++ rest ∧
      Leads setting now screen console before .done after := by
  induction lines generalizing screen console with
  | nil =>
    by_cases done : screen = .done
    · subst done
      exact ⟨fun _ => ⟨[], [], console, rfl, .stays⟩, fun _ => ⟨console, rfl⟩⟩
    rw [converse_nil done]
    refine ⟨by rintro ⟨_, ⟨⟩⟩, ?_⟩
    rintro ⟨before, rest, after, none, leads⟩
    obtain ⟨rfl, rfl⟩ := List.append_eq_nil_iff.mp none.symm
    cases leads
    exact absurd rfl done
  | cons line lines ih =>
    by_cases done : screen = .done
    · subst done
      exact ⟨fun _ => ⟨[], _, console, rfl, .stays⟩, fun _ => ⟨console, rfl⟩⟩
    rw [converse_cons done]
    constructor
    · rintro ⟨after, ok⟩
      obtain ⟨next, between, answered, later⟩ := draw_bind_eq_ok.mp ok
      obtain ⟨before, rest, last, rfl, leads⟩ := ih.mp ⟨after, later⟩
      exact ⟨line :: before, rest, last, rfl, .answers answered leads⟩
    · rintro ⟨before, rest, after, same, leads⟩
      cases leads with
      | stays => exact absurd rfl done
      | answers answered leads =>
        obtain ⟨rfl, rfl⟩ := List.cons.inj same
        obtain ⟨last, later⟩ := ih.mpr ⟨_, rest, after, rfl, leads⟩
        exact ⟨last, draw_bind_eq_ok.mpr ⟨_, _, answered, later⟩⟩

/-- Talking fails exactly when all lines lead to a screen that waits for another one, or when some
of them lead to one at which the next answer fails. -/
theorem converse_failsWith [Host] : FailsWith (converse setting now screen lines) console failure ↔
    (failure = .fault .inputEnded ∧
      ∃ last after, last ≠ .done ∧ Leads setting now screen console lines last after) ∨
    ∃ before line rest stop between, lines = before ++ line :: rest ∧
      Leads setting now screen console before stop between ∧
      FailsWith (respond setting now stop line) between failure := by
  have ended {lines : List String} {console : Console} :
      ¬ ((failure = .fault .inputEnded ∧
        ∃ last after, last ≠ .done ∧ Leads setting now .done console lines last after) ∨
      ∃ before line rest stop between, lines = before ++ line :: rest ∧
        Leads setting now .done console before stop between ∧
        FailsWith (respond setting now stop line) between failure) := by
    rintro (⟨_, last, after, waits, leads⟩ | ⟨before, line, rest, stop, between, _, leads, failed⟩)
    · exact waits (leads.of_done rfl)
    · obtain rfl := leads.of_done rfl
      exact failsWith_pure _ failed
  -- A session that is done takes no line, so every step of the induction first sets that case aside.
  induction lines generalizing screen console with
  | nil =>
    by_cases done : screen = .done
    · subst done
      exact iff_of_false (failsWith_pure _) ended
    rw [converse_nil done, failsWith_throw]
    constructor
    · rintro rfl
      exact .inl ⟨rfl, screen, console, done, .stays⟩
    · rintro (⟨rfl, _⟩ | ⟨before, line, rest, _, _, none, _⟩)
      · rfl
      · cases List.append_eq_nil_iff.mp none.symm with
        | intro _ none => cases none
  | cons line lines ih =>
    by_cases done : screen = .done
    · subst done
      exact iff_of_false (failsWith_pure _) ended
    rw [converse_cons done, failsWith_bind]
    constructor
    · rintro (failed | ⟨next, between, answered, later⟩)
      · exact .inr ⟨[], line, lines, screen, console, rfl, .stays, failed⟩
      rcases ih.mp later with
        ⟨rfl, last, after, waits, leads⟩ | ⟨before, other, rest, stop, after, rfl, leads, failed⟩
      · exact .inl ⟨rfl, last, after, waits, .answers answered leads⟩
      · exact .inr ⟨line :: before, other, rest, stop, after, rfl, .answers answered leads, failed⟩
    · rintro (⟨rfl, last, after, waits, leads⟩ | ⟨before, other, rest, stop, after, same, leads, failed⟩)
      · cases leads with
        | answers answered leads =>
          exact .inr ⟨_, _, answered, ih.mpr (.inl ⟨rfl, last, after, waits, leads⟩)⟩
      · cases leads with
        | stays =>
          obtain ⟨rfl, rfl⟩ := List.cons.inj same
          exact .inl failed
        | answers answered leads =>
          obtain ⟨rfl, rfl⟩ := List.cons.inj same
          exact .inr ⟨_, _, answered, ih.mpr (.inr ⟨_, other, rest, stop, after, rfl, leads, failed⟩)⟩

end converse

theorem settingOf_offers {document : Dict} {surroundings : Surroundings} (legible : Dict.Plain document)
    (read : Library.ofDocument document = .ok library)
    (tokens : ∀ call bytes, Text.isPlain (surroundings.token call bytes) = true) :
    (settingOf surroundings library).Offers library where
  master := ⟨rfl, document, legible, read⟩
  stories := fun _ listed => Library.story_of_all legible read listed
  tokens := tokens

theorem session_cases [Host] {surroundings : Surroundings} {opened : Console} (now : Timestamp)
    (lines : List String) (offered : surroundings.library = .ok library)
    (welcomed : welcome console = .ok .mainMenu opened) :
    (∃ after, converse (settingOf surroundings library) now .mainMenu lines opened = .ok () after ∧
      session surroundings now console lines = (.returned, after)) ∨
    ∃ failure after,
      converse (settingOf surroundings library) now .mainMenu lines opened = .error failure after ∧
        session surroundings now console lines = (.failed failure, after) := by
  unfold session
  rw [offered]
  dsimp only
  cases talked : converse (settingOf surroundings library) now .mainMenu lines opened with
  | ok _ after =>
    rw [draw_bind_eq_ok.mpr ⟨_, _, welcomed, talked⟩]
    exact .inl ⟨after, rfl, rfl⟩
  | error failure after =>
    rw [draw_bind_eq_error.mpr (.inr ⟨_, _, welcomed, talked⟩)]
    exact .inr ⟨failure, after, rfl, rfl⟩

/-- With stories that could be loaded and nothing saved, a session returns when it is left, and ends
otherwise either because its lines do or because an answer derails it. -/
theorem session_ends [Host] {document : Dict} {surroundings : Surroundings}
    (legible : Dict.Plain document) (read : Library.ofDocument document = .ok library)
    (offered : surroundings.library = .ok library)
    (tokens : ∀ call bytes, Text.isPlain (surroundings.token call bytes) = true)
    (aware : now.IsAware) (vacant : ∀ id, console.world.saves.held id = none) (lines : List String)
    (typed : ∀ line ∈ lines, Text.isPlain line = true) :
    let setting := settingOf surroundings library
    let ending := (session surroundings now console lines).1
    (∀ code, ending ≠ .exit code) ∧
    (ending = .returned ↔
      ∃ before rest after, lines = before ++ rest ∧ Reaches setting now console before .done after) ∧
    ∀ failure, ending = .failed failure ↔
      (failure = .fault .inputEnded ∧
        ∃ screen after, screen ≠ .done ∧ Reaches setting now console lines screen after) ∨
      ∃ before line rest screen between, lines = before ++ line :: rest ∧
        Reaches setting now console before screen between ∧
        Derails setting library now between screen (answerOf line) failure := by
  intro setting ending
  have offers : setting.Offers library := settingOf_offers legible read tokens
  obtain ⟨opened, welcomed, same⟩ : ∃ opened, welcome console = .ok .mainMenu opened ∧
      opened.world = console.world := by
    obtain ⟨output, welcomed⟩ := tells_welcome.ok rfl console
    exact ⟨_, welcomed, rfl⟩
  have inPlay : opened.world.saves.InPlay library := by
    intro id entry held
    rw [same, vacant id] at held
    cases held
  have fits : Fits setting library opened .mainMenu := ⟨inPlay, trivial⟩
  -- The welcome takes no line, so all that is left to be told is how talking ends from the main menu.
  have ends := session_cases now lines offered welcomed
  simp only [reaches_iff welcomed]
  refine ⟨fun code => ?exits, ?returns, fun failure => ?fails⟩
  case exits =>
    rcases ends with ⟨_, _, ended⟩ | ⟨_, _, _, ended⟩ <;> simp [ending, ended]
  case returns =>
    rw [← converse_eq_ok]
    rcases ends with ⟨after, talked, ended⟩ | ⟨problem, after, talked, ended⟩ <;>
      simp [ending, ended, setting, talked]
  case fails =>
    have failing : ending = .failed failure ↔
        FailsWith (converse setting now .mainMenu lines) opened failure := by
      unfold FailsWith
      rcases ends with ⟨after, talked, ended⟩ | ⟨problem, after, talked, ended⟩ <;>
        simp [ending, ended, setting, talked]
    rw [failing, converse_failsWith]
    refine or_congr_right ⟨?_, ?_⟩
    · rintro ⟨before, line, rest, screen, between, rfl, leads, failed⟩
      have derails := (leads.next_fails offers aware typed fits).mp failed
      exact ⟨before, line, rest, screen, between, rfl, leads, derails⟩
    · rintro ⟨before, line, rest, screen, between, rfl, leads, derails⟩
      have failed := (leads.next_fails offers aware typed fits).mpr derails
      exact ⟨before, line, rest, screen, between, rfl, leads, failed⟩

def harbourSession : Surroundings :=
  ⟨Library.ofDocument Navigator.harbour, true, false, fun _ _ => "0a"⟩

def firstConsole : Console := ⟨⟨.empty, .ofSeed (.number 1)⟩, 0, ""⟩

open scoped Host in
/-- A superscript is a digit, so it is taken for the number of a story, but it makes no number. -/
theorem session_ends_superscript :
    (session harbourSession Story.Lighthouse.morning firstConsole ["1", "²"]).1 =
      .failed (.fault .badValue) := by
  have filled : (Library.ofDocument Navigator.harbour).toOption.any (fun library =>
      !library.all.isEmpty && (firstFault (menuLines "Stories" (library.all.map (·.title)))).isNone) =
        true := by
    decide +kernel
  cases read : Library.ofDocument Navigator.harbour with
  | error failure =>
    rw [read] at filled
    cases filled
  | ok library =>
    rw [read] at filled
    have legible : Dict.Plain Navigator.harbour := by
      refine ⟨List.nodup_singleton _, List.forall_mem_singleton.mpr ?_,
        List.forall_mem_singleton.mpr ?_⟩ <;> decide +kernel
    have tokens (call bytes : Nat) : Text.isPlain (harbourSession.token call bytes) = true := by
      change Text.isPlain "0a" = true
      decide +kernel
    have aware : Story.Lighthouse.morning.IsAware :=
      ⟨by decide, by decide, by decide, 0, rfl, by decide, .inl rfl⟩
    have vacant (id : SaveId) : firstConsole.world.saves.held id = none := rfl
    have ends := (session_ends legible read read tokens aware vacant ["1", "²"]
      (by decide +kernel)).2.2 (.fault .badValue)
    obtain ⟨offered, printable⟩ := (Bool.and_eq_true_iff ..).mp filled
    obtain ⟨first, welcomed⟩ := tells_welcome.ok rfl firstConsole
    have menu := tells_openStoryMenu (settingOf harbourSession library)
    have offered : (settingOf harbourSession library).stories.isEmpty = false :=
      (Bool.not_eq_true' _).mp offered
    rw [offered] at menu
    obtain ⟨second, opened⟩ :=
      menu.ok (Option.isNone_iff_eq_none.mp printable) { firstConsole with output := first }
    have newGame : answerOf "1" = ['1'] := by decide +kernel
    have answered : respond (settingOf harbourSession library) Story.Lighthouse.morning .mainMenu "1"
        { firstConsole with output := first } =
          .ok .storyMenu { firstConsole with output := second } := by
      unfold respond
      rw [newGame]
      exact opened
    have superscript : IsUnreadable (answerOf "²") := by
      have answer : answerOf "²" = ['²'] := by decide +kernel
      exact answer ▸ ⟨by decide +kernel, .inl ⟨'²', .head _, by decide +kernel⟩⟩
    exact ends.mpr (.inr ⟨["1"], "²", [], .storyMenu, _, rfl, ⟨_, welcomed, .answers answered .stays⟩,
      .numeral trivial superscript⟩)

end Gamebook.Cli
