import SttBench.OxcamlEpoll.Faults
import SttBench.OxcamlEpoll.CloseFinality
import SttBench.OxcamlEpoll.Routing
import SttBench.OxcamlEpoll.StatusLine
import SttBench.OxcamlEpoll.Timers
import SttBench.OxcamlEpoll.TimerHeap
import SttBench.OxcamlEpoll.JsonWriter
import SttBench.OxcamlEpoll.Handshake
import SttBench.RustSync.Watch
import SttBench.RustSync.Timers
import SttBench.RustAxum.Session
import SttBench.OcamlAsync.Framing
import SttBench.OcamlAsync.WebsocketConnection
import SttBench.OcamlAsync.FrameBuffer
import SttBench.Cpp23Uws.TimerWheel
import SttBench.ScalaPekko.SessionActor
import SttBench.GoNethttp.Session
import SttBench.ElixirPhoenix.Inference
import SttBench.JavaHelidon.Fragments
import SttBench.PythonFastapi.Session
import SttBench.Backlog
import SttBench.Loadgen.Coverage
import SttBench.Loadgen.Histograms
import SttBench.Loadgen.Tail
import SttBench.Loadgen.FramePayload
import SttBench.Bench.Verdict
import SttBench.Bench.Sweep
import SttBench.Bench.SamplesCsv
import SttBench.Bench.Capacity
import SttBench.Stub
