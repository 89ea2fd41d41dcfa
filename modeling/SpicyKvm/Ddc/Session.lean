import SpicyKvm.Ddc.Frame

/-!
# The DDC/CI handle

`ddcci_open` opens `/dev/i2c-N`, binds it to the display's address, creates
the timer that rate-limits commands and arms it; on any failure it calls
`ddcci_close` and returns `-errno`. `ddcci_close` closes each descriptor that
is not `-1` and then stores `0` in both. `ddcci_tx` waits for the timer,
writes the frame and re-arms the timer with the command's delay;
`ddcci_vcp_set` sends a Set VCP Feature command with a delay of 50 ms.

The process's descriptor table is part of the state, as far as these
functions touch it: each open descriptor with what it refers to. What the
system calls return is given by the environment: a failing call gives its
`errno`, a successful `open` or `timerfd_create` a descriptor. `snprintf`
into the 64-byte path buffer cannot fail for an `int`, so its error branch is
not modelled; the result of the initial `ddcci_wait`, which `ddcci_open`
ignores, is not either. The bus writes are recorded in order with the
descriptor written to.
-/

namespace SpicyKvm.Ddc

/-- `ddcci_success` -/
def ddcciSuccess : Int := 0

/-- `ddcci_err_invalid_argument` -/
def ddcciErrInvalidArgument : Int := 1

/-- What an open descriptor refers to: an I²C bus device bound to the
display's address, or the rate-limiting timer. -/
inductive Desc
  | i2c (bus : Int)
  | timer
deriving DecidableEq, Repr

/-- `struct ddcci` -/
structure Ddcci where
  fd : Int
  tfd : Int
deriving DecidableEq, Repr

/-- The part of the process the DDC/CI code touches. -/
structure Sys where
  /-- the open descriptors and what they refer to -/
  fds : List (Int × Desc)
  /-- the frames written, each with the descriptor it was written to -/
  written : List (Int × List (BitVec 8))
  /-- the `it_value` (seconds, nanoseconds) the timer was last armed with -/
  armed : Nat × Nat
deriving DecidableEq, Repr

/-- `close(fd)`: the descriptor leaves the table; closing one that is not open
fails with `EBADF` and changes nothing. -/
def Sys.close (sys : Sys) (fd : Int) : Sys :=
  { sys with fds := sys.fds.filter (·.1 ≠ fd) }

/-- A new descriptor enters the table. -/
def Sys.add (sys : Sys) (fd : Int) (d : Desc) : Sys :=
  { sys with fds := (fd, d) :: sys.fds }

/-- `ddcci_close` -/
def ddcciClose (sys : Sys) (ddc : Ddcci) : Sys × Ddcci :=
  let sys := if ddc.fd ≠ -1 then sys.close ddc.fd else sys
  let sys := if ddc.tfd ≠ -1 then sys.close ddc.tfd else sys
  (sys, ⟨0, 0⟩)

/-- `2^64`, the modulus of `uint64_t`. -/
def uint64Size : Nat := 18446744073709551616

/-- The `it_value` of `ddcci_wait_set(ddc, ms)`: `(uint64_t)(ms) * 1000000`
nanoseconds split into seconds and nanoseconds, in 64-bit unsigned
arithmetic. -/
def waitSetValue (ms : Int) : Nat × Nat :=
  let ns := (ms % uint64Size).toNat * 1000000 % uint64Size
  (ns / 1000000000, ns % 1000000000)

/-- `ddcci_wait_set`: `setTime` is the `errno` of a failing `timerfd_settime`. -/
def ddcciWaitSet (sys : Sys) (ms : Int) (setTime : Option Int) : Int × Sys :=
  match setTime with
  | some e => (-e, sys)
  | none => (ddcciSuccess, { sys with armed := waitSetValue ms })

/-- What the system calls of `ddcci_open` return. -/
structure OpenEnv where
  /-- `open("/dev/i2c-N")`: a descriptor, or the `errno` -/
  openFd : Except Int Int
  /-- the `errno` of a failing `ioctl(fd, I2C_SLAVE, I2C_ADDR_DDC_CI)` -/
  ioctl : Option Int
  /-- `timerfd_create`: a descriptor, or the `errno` -/
  timerfdCreate : Except Int Int
  /-- the `errno` of a failing `timerfd_settime` -/
  setTime : Option Int

/-- `ddcci_open(ddc, i2c)`: the return code, the system, the handle. -/
def ddcciOpen (env : OpenEnv) (sys : Sys) (i2c : Int) : Int × Sys × Ddcci :=
  let fail (rc : Int) (sys : Sys) (ddc : Ddcci) : Int × Sys × Ddcci := (rc, ddcciClose sys ddc)
  match env.openFd with
  | .error e => fail (-e) sys ⟨-1, -1⟩
  | .ok fd =>
    let sys := sys.add fd (.i2c i2c)
    match env.ioctl with
    | some e => fail (-e) sys ⟨fd, -1⟩
    | none =>
      match env.timerfdCreate with
      | .error e => fail (-e) sys ⟨fd, -1⟩
      | .ok tfd =>
        let w := ddcciWaitSet (sys.add tfd .timer) 1 env.setTime
        if w.1 ≠ ddcciSuccess then fail w.1 w.2 ⟨fd, tfd⟩ else (ddcciSuccess, w.2, ⟨fd, tfd⟩)

/-- What the system calls of `ddcci_tx` return: the `errno` of each one that
fails. `wait` is the read of the timer after its retries on `EINTR` and
`EAGAIN`. -/
structure TxEnv where
  wait : Option Int
  write : Option Int
  setTime : Option Int

/-- `ddcci_tx(ddc, cmd, cmd_len, wait_ms)`, or `none` where the frame does not
fit `buf`: a command of 254 or 255 bytes passes the length check and the code
stores past the end of `buf`. -/
def ddcciTx (env : TxEnv) (sys : Sys) (ddc : Ddcci) (cmd : List (BitVec 8)) (waitMs : Int) :
    Option (Int × Sys) :=
  if cmd.length > 0xFF then some (ddcciErrInvalidArgument, sys)
  else
    match env.wait with
    | some e => some (-e, sys)
    | none =>
      (txFrame cmd).map fun frame =>
        match env.write with
        | some e => (-e, sys)
        | none => ddcciWaitSet { sys with written := sys.written ++ [(ddc.fd, frame)] } waitMs
            env.setTime

/-- A command whose frame fits `buf` is sent without undefined behaviour. -/
theorem ddcciTx_isSome {cmd : List (BitVec 8)} (h : cmd.length ≤ 253) (env : TxEnv) (sys : Sys)
    (ddc : Ddcci) (waitMs : Int) : (ddcciTx env sys ddc cmd waitMs).isSome := by
  unfold ddcciTx
  split_ifs
  · rfl
  · split
    · rfl
    · rw [txFrame_eq h]
      rfl

/-- `ddcci_vcp_set(ddc, vcp, val)`: its four-byte command always fits `buf`. -/
def ddcciVcpSet (env : TxEnv) (sys : Sys) (ddc : Ddcci) (vcp : BitVec 8) (val : BitVec 16) :
    Int × Sys :=
  (ddcciTx env sys ddc (vcpSetCommand vcp val) 50).get
    (ddcciTx_isSome (by simp [vcpSetCommand]) env sys ddc 50)

/-! ## Closing -/

@[simp] theorem Sys.close_written (sys : Sys) (fd : Int) : (sys.close fd).written = sys.written := rfl
@[simp] theorem Sys.add_written (sys : Sys) (fd : Int) (d : Desc) :
    (sys.add fd d).written = sys.written := rfl
@[simp] theorem ddcciClose_snd (sys : Sys) (ddc : Ddcci) : (ddcciClose sys ddc).2 = ⟨0, 0⟩ := rfl
@[simp] theorem ddcciClose_written (sys : Sys) (ddc : Ddcci) :
    (ddcciClose sys ddc).1.written = sys.written := by
  unfold ddcciClose; split_ifs <;> rfl

theorem Sys.close_of_not_mem {sys : Sys} {fd : Int} (h : ∀ p ∈ sys.fds, p.1 ≠ fd) :
    (sys.close fd).fds = sys.fds :=
  List.filter_eq_self.mpr fun p hp => by simpa using h p hp

theorem Sys.close_add {sys : Sys} {fd : Int} {d : Desc} (h : ∀ p ∈ sys.fds, p.1 ≠ fd) :
    ((sys.add fd d).close fd).fds = sys.fds := by
  simp only [Sys.close, Sys.add, List.filter_cons, ne_eq, not_true_eq_false, decide_False,
    Bool.false_eq_true, if_false]
  exact Sys.close_of_not_mem h

/-- `ddcci_close` closes exactly the descriptors of the handle that are not
`-1`. -/
theorem mem_ddcciClose_fds (sys : Sys) (ddc : Ddcci) (p : Int × Desc) :
    p ∈ (ddcciClose sys ddc).1.fds ↔
      p ∈ sys.fds ∧ (ddc.fd = -1 ∨ p.1 ≠ ddc.fd) ∧ (ddc.tfd = -1 ∨ p.1 ≠ ddc.tfd) := by
  unfold ddcciClose
  by_cases h1 : ddc.fd = -1 <;> by_cases h2 : ddc.tfd = -1 <;>
    simp [h1, h2, Sys.close, and_assoc, and_comm]

/-! ## Opening -/

/-- What a real system returns: descriptors that are fresh (not open, not
`-1`, the timer's not the bus's) and positive `errno` values. -/
structure OpenEnv.Valid (env : OpenEnv) (sys : Sys) : Prop where
  openFd : ∀ fd, env.openFd = .ok fd → fd ≠ -1 ∧ ∀ p ∈ sys.fds, p.1 ≠ fd
  timerfd : ∀ tfd, env.timerfdCreate = .ok tfd →
    tfd ≠ -1 ∧ (∀ fd, env.openFd = .ok fd → tfd ≠ fd) ∧ ∀ p ∈ sys.fds, p.1 ≠ tfd
  openErr : ∀ e, env.openFd = .error e → 0 < e
  ioctlErr : ∀ e, env.ioctl = some e → 0 < e
  timerfdErr : ∀ e, env.timerfdCreate = .error e → 0 < e
  setTimeErr : ∀ e, env.setTime = some e → 0 < e

/-- **`ddcci_open` leaks nothing.** It succeeds with the bus it was given and
the timer open in the handle; or it fails with a negative code, the descriptor
table as it was, and a handle of zeros. It writes nothing to the bus. -/
theorem ddcciOpen_spec {env : OpenEnv} {sys : Sys} (hv : env.Valid sys) (i2c : Int) :
    let r := ddcciOpen env sys i2c
    r.2.1.written = sys.written ∧
    (r.1 = ddcciSuccess ∧ r.2.2.fd ≠ -1 ∧ r.2.2.tfd ≠ -1 ∧
        r.2.1.fds = (r.2.2.tfd, .timer) :: (r.2.2.fd, .i2c i2c) :: sys.fds ∨
      r.1 < 0 ∧ r.2.1.fds = sys.fds ∧ r.2.2 = ⟨0, 0⟩) := by
  simp only [ddcciOpen]
  rcases ho : env.openFd with e | fd <;> dsimp only
  · -- `open` fails: nothing to close
    have := hv.openErr e ho
    exact ⟨rfl, .inr ⟨by omega, rfl, rfl⟩⟩
  obtain ⟨hfd, hfresh⟩ := hv.openFd fd ho
  have hclose : (ddcciClose (sys.add fd (.i2c i2c)) ⟨fd, -1⟩).1.fds = sys.fds := by
    simp [ddcciClose, hfd, Sys.close_add hfresh]
  rcases hi : env.ioctl with _ | e <;> dsimp only
  · rcases ht : env.timerfdCreate with e | tfd <;> dsimp only
    · -- `timerfd_create` fails: the bus is closed
      have := hv.timerfdErr e ht
      exact ⟨by simp, .inr ⟨by omega, hclose, rfl⟩⟩
    obtain ⟨htfd, hne, htfresh⟩ := hv.timerfd tfd ht
    have hne := hne fd ho
    rcases hs : env.setTime with _ | e <;> dsimp only [ddcciWaitSet]
    · exact ⟨rfl, .inl ⟨rfl, hfd, htfd, rfl⟩⟩
    · -- `timerfd_settime` fails: both are closed
      have := hv.setTimeErr e hs
      rw [if_pos (by unfold ddcciSuccess; omega)]
      refine ⟨by simp, .inr ⟨by omega, ?_, rfl⟩⟩
      simp only [ddcciClose, ne_eq, hfd, htfd, not_false_eq_true, if_true, Sys.close, Sys.add,
        List.filter_cons, hne, not_true_eq_false, decide_False, decide_True, Bool.false_eq_true,
        if_false, if_true]
      have h₁ : sys.fds.filter (fun x => decide ¬x.1 = fd) = sys.fds :=
        List.filter_eq_self.mpr fun p hp => by simpa using hfresh p hp
      rw [h₁]
      exact List.filter_eq_self.mpr fun p hp => by simpa using htfresh p hp
  · -- `ioctl` fails: the bus is closed
    have := hv.ioctlErr e hi
    exact ⟨by simp, .inr ⟨by omega, hclose, rfl⟩⟩

/-! ## Sending -/

/-- What a real system returns: positive `errno` values. -/
structure TxEnv.Valid (env : TxEnv) : Prop where
  wait : ∀ e, env.wait = some e → 0 < e
  write : ∀ e, env.write = some e → 0 < e
  setTime : ∀ e, env.setTime = some e → 0 < e

@[simp] theorem ddcciWaitSet_fds (sys : Sys) (ms : Int) (setTime : Option Int) :
    (ddcciWaitSet sys ms setTime).2.fds = sys.fds := by
  cases setTime <;> rfl

@[simp] theorem ddcciWaitSet_written (sys : Sys) (ms : Int) (setTime : Option Int) :
    (ddcciWaitSet sys ms setTime).2.written = sys.written := by
  cases setTime <;> rfl

/-- What a send can do: give up before writing, with the system unchanged, or
write the frame of a command that fits `buf` and then re-arm the timer. -/
theorem ddcciTx_cases {env : TxEnv} {sys : Sys} {ddc : Ddcci} {cmd : List (BitVec 8)} {waitMs : Int}
    {r : Int × Sys} (h : ddcciTx env sys ddc cmd waitMs = some r) :
    r.2 = sys ∧ (r.1 = ddcciErrInvalidArgument ∨ ∃ e, (env.wait = some e ∨ env.write = some e) ∧ r.1 = -e) ∨
      ∃ frame, txFrame cmd = some frame ∧ env.wait = none ∧ env.write = none ∧
        r = ddcciWaitSet { sys with written := sys.written ++ [(ddc.fd, frame)] } waitMs env.setTime := by
  unfold ddcciTx at h
  split_ifs at h
  · cases h
    exact .inl ⟨rfl, .inl rfl⟩
  · split at h
    · rename_i e he
      cases h
      exact .inl ⟨rfl, .inr ⟨e, .inl he, rfl⟩⟩
    · rename_i hw
      obtain ⟨frame, hf, h⟩ := Option.map_eq_some'.mp h
      split at h
      · rename_i e he
        cases h
        exact .inl ⟨rfl, .inr ⟨e, .inr he, rfl⟩⟩
      · exact .inr ⟨frame, hf, hw, by assumption, h.symm⟩

theorem ddcciTx_fds {env : TxEnv} {sys : Sys} {ddc : Ddcci} {cmd : List (BitVec 8)} {waitMs : Int}
    {r : Int × Sys} (h : ddcciTx env sys ddc cmd waitMs = some r) : r.2.fds = sys.fds := by
  rcases ddcciTx_cases h with ⟨h, -⟩ | ⟨_, -, -, -, rfl⟩
  · rw [h]
  · simp

/-- A send writes its frame, on the handle's bus descriptor, or nothing. -/
theorem ddcciTx_written {env : TxEnv} {sys : Sys} {ddc : Ddcci} {cmd : List (BitVec 8)} {waitMs : Int}
    {r : Int × Sys} (h : ddcciTx env sys ddc cmd waitMs = some r) :
    r.2.written = sys.written ∨
      ∃ frame, txFrame cmd = some frame ∧ r.2.written = sys.written ++ [(ddc.fd, frame)] := by
  rcases ddcciTx_cases h with ⟨h, -⟩ | ⟨frame, hf, -, -, rfl⟩
  · exact .inl (by rw [h])
  · exact .inr ⟨frame, hf, by simp⟩

/-- A send that reports success wrote its frame. -/
theorem ddcciTx_success {env : TxEnv} (hv : env.Valid) {sys : Sys} {ddc : Ddcci}
    {cmd : List (BitVec 8)} {waitMs : Int} {r : Int × Sys} (h : ddcciTx env sys ddc cmd waitMs = some r)
    (hr : r.1 = ddcciSuccess) :
    ∃ frame, txFrame cmd = some frame ∧ r.2.written = sys.written ++ [(ddc.fd, frame)] := by
  rcases ddcciTx_cases h with ⟨-, h | ⟨e, he, h⟩⟩ | ⟨frame, hf, -, -, rfl⟩
  · rw [hr] at h
    cases h
  · have : 0 < e := he.elim (hv.wait e) (hv.write e)
    simp only [ddcciSuccess] at hr
    omega
  · exact ⟨frame, hf, by simp⟩

theorem ddcciVcpSet_eq (env : TxEnv) (sys : Sys) (ddc : Ddcci) (vcp : BitVec 8) (val : BitVec 16) :
    ddcciTx env sys ddc (vcpSetCommand vcp val) 50 = some (ddcciVcpSet env sys ddc vcp val) :=
  (Option.some_get _).symm

@[simp] theorem ddcciVcpSet_fds (env : TxEnv) (sys : Sys) (ddc : Ddcci) (vcp : BitVec 8)
    (val : BitVec 16) : (ddcciVcpSet env sys ddc vcp val).2.fds = sys.fds :=
  ddcciTx_fds (ddcciVcpSet_eq ..)

theorem ddcciVcpSet_written (env : TxEnv) (sys : Sys) (ddc : Ddcci) (vcp : BitVec 8) (val : BitVec 16) :
    (ddcciVcpSet env sys ddc vcp val).2.written = sys.written ∨
      (ddcciVcpSet env sys ddc vcp val).2.written = sys.written ++ [(ddc.fd, vcpSetFrame vcp val)] := by
  rcases ddcciTx_written (ddcciVcpSet_eq ..) with h | ⟨frame, hf, h⟩
  · exact .inl h
  · rw [txFrame_vcpSetCommand, Option.some.injEq] at hf
    exact .inr (hf ▸ h)

theorem ddcciVcpSet_success {env : TxEnv} (hv : env.Valid) {sys : Sys} {ddc : Ddcci} {vcp : BitVec 8}
    {val : BitVec 16} (h : (ddcciVcpSet env sys ddc vcp val).1 = ddcciSuccess) :
    (ddcciVcpSet env sys ddc vcp val).2.written = sys.written ++ [(ddc.fd, vcpSetFrame vcp val)] := by
  obtain ⟨frame, hf, hw⟩ := ddcciTx_success hv (ddcciVcpSet_eq ..) h
  rw [txFrame_vcpSetCommand, Option.some.injEq] at hf
  exact hf ▸ hw

end SpicyKvm.Ddc
