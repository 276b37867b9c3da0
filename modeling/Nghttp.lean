import Nghttp.Uri
import Nghttp.Config
import Nghttp.Registry
import Nghttp.SubmitRequest
import Nghttp.Session
import Nghttp.Effects
import Nghttp.Streams
import Nghttp.Admission
import Nghttp.Run
import Nghttp.Connect
import Nghttp.Upload
import Nghttp.Transport
import Nghttp.Bufferevent
import Nghttp.EventLoop
import Nghttp.Response
import Nghttp.Links
import Nghttp.Options
import Nghttp.Main
