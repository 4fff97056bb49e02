import EspProtocols.AutobahnHeap
import EspProtocols.AutobahnAccumulator
import EspProtocols.AutobahnHandler
import EspProtocols.AutobahnEchoRetry
import EspProtocols.AutobahnInvariant
import EspProtocols.AutobahnReassembly
import EspProtocols.AutobahnFrames
import EspProtocols.AutobahnRejection
import EspProtocols.AutobahnAssembly
import EspProtocols.ModemFdTerminal
import EspProtocols.AutobahnGetString
import EspProtocols.ExampleGetString
import EspProtocols.AutobahnCaseUri
import EspProtocols.AutobahnLifetime
import EspProtocols.ModemTaskExit
import EspProtocols.ExampleFlood
