import Dionysus.Machine
import Dionysus.Recorder
import Dionysus.Budget
import Dionysus.Script
import Dionysus.Progress
import Dionysus.History
import Dionysus.Semaphore
import Dionysus.Ledger
import Dionysus.Buffer
import Dionysus.Framing
import Dionysus.KeyedStore
import Dionysus.BigEndian
import Dionysus.Json
import Dionysus.Bluetooth
import Dionysus.Thingy
import Dionysus.Base
import Dionysus.Relay
import Dionysus.Radio
import Dionysus.Ibeacon
import Dionysus.Eye
import Dionysus.EyeSockets
import Dionysus.ImageSocket
import Dionysus.ImageStore
import Dionysus.Link
import Dionysus.ImagePipeline
import Dionysus.MqttMessage
import Dionysus.MqttClient
import Dionysus.MessageFeed
import Dionysus.DiscoSocket
import Dionysus.Ultrasonic
import Dionysus.Microphone
import Dionysus.ThingyNode
import Dionysus.Sendall
import Dionysus.BrokerAddress
import Dionysus.BitField
import Dionysus.Rgb565
import Dionysus.CameraSetup
import Dionysus.Positions
import Dionysus.Polling
import Dionysus.Proofs.Packets
import Dionysus.Proofs.BeaconAgreement
import Dionysus.Proofs.BaseRuns
import Dionysus.Proofs.BaseRelay
import Dionysus.Proofs.BaseProgress
import Dionysus.Proofs.BaseLines
import Dionysus.Proofs.BaseUpdates
import Dionysus.Proofs.BaseClaps
import Dionysus.Proofs.RadioRuns
import Dionysus.Proofs.ClapReports
import Dionysus.Proofs.JsonText
import Dionysus.Proofs.Records
import Dionysus.Proofs.EyeRuns
import Dionysus.Proofs.EyeSignal
import Dionysus.Proofs.EyeRequests
import Dionysus.Proofs.EyePool
import Dionysus.Proofs.EyeArguments
import Dionysus.Proofs.EyeConnections
import Dionysus.Proofs.EyeFrames
import Dionysus.Proofs.EyeOwnership
import Dionysus.Proofs.ImageStream
import Dionysus.Proofs.EyeFraming
import Dionysus.Proofs.ImageNames
import Dionysus.Proofs.ImageDelivery
import Dionysus.Proofs.MqttRuns
import Dionysus.Proofs.BringUpOrder
import Dionysus.Proofs.BringUpWaits
import Dionysus.Proofs.LinkAddress
import Dionysus.Proofs.BringUpFailures
import Dionysus.Proofs.MqttSession
import Dionysus.Proofs.MessageText
import Dionysus.Proofs.MessageOrder
import Dionysus.Proofs.MessageDrain
import Dionysus.Proofs.SocketOwnership
import Dionysus.Proofs.EchoDistance
import Dionysus.Proofs.SendallBytes
import Dionysus.Proofs.PdmCleanup
import Dionysus.Proofs.ClapCount
import Dionysus.Proofs.ThingyRounds
import Dionysus.Proofs.ClapByte
import Dionysus.Proofs.GenuineBeacons
import Dionysus.Proofs.Pipeline
import Dionysus.Proofs.Dashboard
import Dionysus.Proofs.EchoRounds
import Dionysus.Proofs.EchoWaits
import Dionysus.Proofs.ClapNotices
import Dionysus.Proofs.BrokerRecords
import Dionysus.Proofs.FrameColours
import Dionysus.Proofs.BufferSizes
import Dionysus.Proofs.ParserPaths
