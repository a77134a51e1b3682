import MoonlightWeb.Client.GamepadPaths
import MoonlightWeb.Scripts.ContainerRoute
import MoonlightWeb.Streamer.Timestamps
import MoonlightWeb.WebServer.AcmeChallenges
import MoonlightWeb.MoonlightCommon.Resolution
import MoonlightWeb.MoonlightCommon.StreamStart
import MoonlightWeb.Streamer.CandidateInjection
import MoonlightWeb.Common.Ipc
import MoonlightWeb.Lib.Utf8
import MoonlightWeb.Client.AudioRing
import MoonlightWeb.Client.AudioWorklet
import MoonlightWeb.Lib.RingBuffer
import MoonlightWeb.MoonlightCommon.HostTrust
import MoonlightWeb.Client.KeyboardFraming
import MoonlightWeb.Client.TouchGesture
import MoonlightWeb.Client.ControllerState
import MoonlightWeb.Client.GamepadRegistry
import MoonlightWeb.Streamer.Input
import MoonlightWeb.Streamer.Sender
import MoonlightWeb.Streamer.Video
import MoonlightWeb.WebServer.Authorisation
import MoonlightWeb.WebServer.SessionStore
import MoonlightWeb.WebServer.ClientIds
import MoonlightWeb.WebServer.InputRelay
import MoonlightWeb.WebServer.TotpStorage
import MoonlightWeb.Streamer.DetachedSlots
import MoonlightWeb.Streamer.Rumble
import MoonlightWeb.Streamer.PeerCount
import MoonlightWeb.Client.AudioDecodeWorker
import MoonlightWeb.Client.StreamAudio
import MoonlightWeb.Client.PeerIsolation
import MoonlightWeb.Client.StreamSocket
import MoonlightWeb.Streamer.Termination
import MoonlightWeb.WebServer.DataFile
import MoonlightWeb.Streamer.Pacing
import MoonlightWeb.Client.TextRoundTrip
import MoonlightWeb.Streamer.Video.AnnexB
import MoonlightWeb.WebServer.HostRegistry
import MoonlightWeb.YouTubeRemote.ExitServer
import MoonlightWeb.YouTubeRemote.PageOwner
import MoonlightWeb.MoonlightCommonC.AudioQueueDelivery
import MoonlightWeb.Streamer.Audio
import MoonlightWeb.Lib.BlockingQueue
import MoonlightWeb.Lib.LinkedList
import MoonlightWeb.MoonlightCommonC.InputDelivery
