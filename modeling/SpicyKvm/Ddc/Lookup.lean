import SpicyKvm.Ddc.Session

/-!
# Finding the display's bus

`ddcci_find_i2c(card, &i2c)` looks the I²C bus of a DRM connector up in
sysfs: among the entries of `/sys/class/drm/<card>/`, and if none fits among
those of `/sys/class/drm/<card>/ddc/i2c-dev`, it takes the first name that
starts with `i2c-` and reads the bus number after the prefix with `atoi`. A
missing second directory is reported as `ENODEV`, like finding nothing.

A directory is given by what `opendir` and the `readdir` loop return: the
`errno` of a failing `opendir`, or the names `readdir` returns before its
`NULL`. The loop does not tell the end of the directory from a read error, and
neither does the model. `snprintf` into a `PATH_MAX` buffer does not fail for
a connector name, so its error branches are not modelled.

On success the function returns before its `closedir`: the directory stream,
and the descriptor under it, stay open. The model counts the streams it leaves
open (`ddcciFindI2c_spec`).
-/

namespace SpicyKvm.Ddc

/-! ## Strings -/

/-- `cut_prefix(s, pfx)`: the rest of `s` after `pfx`, or `NULL`. A string is
the characters before its NUL, so a string that ends inside the prefix fails
when the prefix's next character is compared with that NUL. -/
def cutPrefix : List Char → List Char → Option (List Char)
  | s, [] => some s
  | [], _ :: _ => none
  | c :: s, p :: pfx => if p ≠ c then none else cutPrefix s pfx

/-- `cut_prefix` cuts exactly a prefix. -/
theorem cutPrefix_eq_some_iff {s pfx r : List Char} : cutPrefix s pfx = some r ↔ s = pfx ++ r := by
  induction pfx generalizing s with
  | nil => simp [cutPrefix, eq_comm]
  | cons p pfx ih =>
      cases s with
      | nil => simp [cutPrefix]
      | cons c s =>
          by_cases h : p = c
          · subst h
            simp [cutPrefix, ih]
          · simp [cutPrefix, h, Ne.symm h]

/-- Modelled from the C library: `isspace` in the C locale. -/
def isSpace (c : Char) : Bool :=
  c = ' ' || c = '\t' || c = '\n' || c = '\x0b' || c = '\x0c' || c = '\r'

/-- Modelled from the C library: the decimal digits at the start of a string,
accumulated from `v` as `strtol` does, before its range check. -/
def decimalValue : List Char → Nat → Nat
  | c :: s, v => if c.isDigit then decimalValue s (v * 10 + (c.toNat - '0'.toNat)) else v
  | [], v => v

/-- `LONG_MIN` and `LONG_MAX` of a 64-bit `long`. -/
def longMin : Int := -9223372036854775808
def longMax : Int := 9223372036854775807

/-- The conversion of a `long` to `int`: reduction modulo `2^32`. -/
def toInt32 (v : Int) : Int := (v + 2147483648) % 4294967296 - 2147483648

/-- Modelled from the C library: the optional sign `strtol` reads, as whether
it is `-`, and the rest. -/
def readSign : List Char → Bool × List Char
  | '-' :: t => (true, t)
  | '+' :: t => (false, t)
  | t => (false, t)

/-- Modelled from the C library: `atoi(s)` is `(int) strtol(s, NULL, 10)`:
white space, an optional sign and decimal digits; the value is clamped to the
range of `long`, then converted to `int`. -/
def atoi (s : List Char) : Int :=
  let signed := readSign (s.dropWhile isSpace)
  let v : Int := decimalValue signed.2 0
  toInt32 (max longMin (min longMax (if signed.1 then -v else v)))

/-! ## The lookup -/

/-- `ENOENT` -/
def eNOENT : Int := 2

/-- `ENODEV` -/
def eNODEV : Int := 19

/-- What `ddcci_find_i2c` reads from sysfs: for each directory, the `errno` of
a failing `opendir` or the names the `readdir` loop sees. -/
structure LookupEnv where
  /-- `/sys/class/drm/<card>/` -/
  card : Except Int (List (List Char))
  /-- `/sys/class/drm/<card>/ddc/i2c-dev` -/
  ddc : Except Int (List (List Char))

/-- The prefix of a bus's name in sysfs. -/
def i2cPrefix : List Char := "i2c-".toList

/-- The `readdir` loop: what follows the prefix in the first name that has it. -/
def scanI2c (names : List (List Char)) : Option (List Char) :=
  names.findSome? fun name => cutPrefix name i2cPrefix

/-- `ddcci_find_i2c`: the return code, the value stored in `*i2c` if any, and
the number of directory streams left open. -/
def ddcciFindI2c (env : LookupEnv) : Int × Option Int × Nat :=
  let found (rest : List Char) : Int × Option Int × Nat := (ddcciSuccess, some (atoi rest), 1)
  match env.card with
  | .error e => (-e, none, 0)
  | .ok names =>
    match scanI2c names with
    | some rest => found rest
    | none =>
      match env.ddc with
      | .error e => (-(if e = eNOENT then eNODEV else e), none, 0)
      | .ok names =>
        match scanI2c names with
        | some rest => found rest
        | none => (-eNODEV, none, 0)

/-- `rest` follows `i2c-` in the first name of `names` that starts with it. -/
def FirstBus (names : List (List Char)) (rest : List Char) : Prop :=
  ∃ pre post, names = pre ++ (i2cPrefix ++ rest) :: post ∧ ∀ name ∈ pre, ¬i2cPrefix.IsPrefix name

/-- Where a bus is to be found: after the first `i2c-` name of the card's
directory or, when that has none, of its `ddc/i2c-dev` directory. -/
def LookupEnv.FindsBus (env : LookupEnv) (rest : List Char) : Prop :=
  (∃ names, env.card = .ok names ∧ FirstBus names rest) ∨
    ∃ names names', env.card = .ok names ∧ (∀ name ∈ names, ¬i2cPrefix.IsPrefix name) ∧
      env.ddc = .ok names' ∧ FirstBus names' rest

/-- What a real system returns: positive `errno` values. -/
structure LookupEnv.Valid (env : LookupEnv) : Prop where
  card : ∀ e, env.card = .error e → 0 < e
  ddc : ∀ e, env.ddc = .error e → 0 < e

theorem cutPrefix_eq_none_iff {s pfx : List Char} : cutPrefix s pfx = none ↔ ¬pfx.IsPrefix s := by
  constructor
  · rintro h ⟨r, rfl⟩
    simp [cutPrefix_eq_some_iff.2 rfl] at h
  · intro h
    cases hc : cutPrefix s pfx with
    | none => rfl
    | some r => exact absurd ⟨r, (cutPrefix_eq_some_iff.1 hc).symm⟩ h

theorem scanI2c_eq_some_iff {names : List (List Char)} {rest : List Char} :
    scanI2c names = some rest ↔ FirstBus names rest := by
  simp only [scanI2c, List.findSome?_eq_some_iff, cutPrefix_eq_some_iff, cutPrefix_eq_none_iff,
    FirstBus]
  constructor
  · rintro ⟨pre, name, post, rfl, rfl, hpre⟩
    exact ⟨pre, post, rfl, hpre⟩
  · rintro ⟨pre, post, rfl, hpre⟩
    exact ⟨pre, _, post, rfl, rfl, hpre⟩

theorem scanI2c_eq_none_iff {names : List (List Char)} :
    scanI2c names = none ↔ ∀ name ∈ names, ¬i2cPrefix.IsPrefix name := by
  simp only [scanI2c, List.findSome?_eq_none_iff, cutPrefix_eq_none_iff]

/-- A bus to be found is stored, with one directory stream left open. -/
theorem ddcciFindI2c_of_findsBus {env : LookupEnv} {rest : List Char} (h : env.FindsBus rest) :
    ddcciFindI2c env = (ddcciSuccess, some (atoi rest), 1) := by
  rcases h with ⟨names, hc, hb⟩ | ⟨names, names', hc, hn, hd, hb⟩
  · simp [ddcciFindI2c, hc, scanI2c_eq_some_iff.2 hb]
  · simp [ddcciFindI2c, hc, scanI2c_eq_none_iff.2 hn, hd, scanI2c_eq_some_iff.2 hb]

/-- **`ddcci_find_i2c` finds the first bus, and leaks its directory.** With
any directory contents, the lookup succeeds exactly when a name starting with
`i2c-` is to be found, in the card's directory first; it then stores `atoi` of
what follows the prefix in that first name and leaves one directory stream
open. Otherwise it returns a negative code, stores nothing and leaves nothing
open. -/
theorem ddcciFindI2c_spec {env : LookupEnv} (hv : env.Valid) :
    (∀ rest, env.FindsBus rest → ddcciFindI2c env = (ddcciSuccess, some (atoi rest), 1)) ∧
      ((∀ rest, ¬env.FindsBus rest) →
        (ddcciFindI2c env).1 < 0 ∧ (ddcciFindI2c env).2 = (none, 0)) := by
  refine ⟨fun _ => ddcciFindI2c_of_findsBus, fun hnone => ?_⟩
  rcases hc : env.card with e | names
  · have := hv.card e hc
    simp only [ddcciFindI2c, hc]
    exact ⟨by omega, trivial⟩
  cases hs : scanI2c names with
  | some rest => exact absurd (.inl ⟨names, hc, scanI2c_eq_some_iff.1 hs⟩) (hnone rest)
  | none =>
    rcases hd : env.ddc with e | names'
    · have := hv.ddc e hd
      simp only [ddcciFindI2c, hc, hs, hd, and_true]
      split_ifs
      · simp [eNODEV]
      · omega
    cases hs' : scanI2c names' with
    | some rest =>
        exact absurd (.inr ⟨names, names', hc, scanI2c_eq_none_iff.1 hs, hd,
          scanI2c_eq_some_iff.1 hs'⟩) (hnone rest)
    | none =>
        simp [ddcciFindI2c, hc, hs, hd, hs', eNODEV]

/-- The connector's directory as sysfs shows it when the display's bus is 6,
with no `ddc/i2c-dev` directory. -/
def sysfsBus6 : LookupEnv :=
  ⟨.ok ["ddc".toList, "device".toList, "i2c-6".toList, "status".toList], .error eNOENT⟩

theorem ddcciFindI2c_spec_sysfsBus6 :
    (∀ rest, sysfsBus6.FindsBus rest → ddcciFindI2c sysfsBus6 = (ddcciSuccess, some (atoi rest), 1)) ∧
      ((∀ rest, ¬sysfsBus6.FindsBus rest) →
        (ddcciFindI2c sysfsBus6).1 < 0 ∧ (ddcciFindI2c sysfsBus6).2 = (none, 0)) :=
  ddcciFindI2c_spec ⟨fun _ h => (nomatch h), fun _ h => by cases h; decide⟩

end SpicyKvm.Ddc
