import SpicyKvm.Audio.Positions
import SpicyKvm.Audio.Resources
import SpicyKvm.Audio.DeviceCalls
import SpicyKvm.Audio.Lifecycle
import SpicyKvm.Audio.Clock
import SpicyKvm.Audio.Controls
import SpicyKvm.Audio.KeepAlive
import SpicyKvm.Audio.Process
import SpicyKvm.Input.Forwarding
import SpicyKvm.Input.Grab
import SpicyKvm.Input.Pointer
import SpicyKvm.Input.Toggle
import SpicyKvm.Input.Probe
import SpicyKvm.Ddc.Switch
import SpicyKvm.Main
import SpicyKvm.Run
import SpicyKvm.Title
