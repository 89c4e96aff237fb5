import AhsApp.Library.Run
import AhsApp.Library.Loader
import AhsApp.Library.ReadMarks
import AhsApp.Firebase.DataSnapshot
import AhsApp.Ios.Decode
import AhsApp.Ios.Feeds
import AhsApp.Ios.FeaturedCarousel
import AhsApp.Ios.BulletinConvergence
import AhsApp.Ios.BulletinReadMarks
import AhsApp.Ios.NotificationReadMarks
import AhsApp.Ios.NotificationFetch
import AhsApp.Android.Settings
import AhsApp.Android.SettingsCoherence
import AhsApp.Android.Article
import AhsApp.Android.CacheReplacement
import AhsApp.Android.NotificationLaunch
import AhsApp.Android.BulletinActivity
import AhsApp.Android.BookmarkSessions
import AhsApp.Android.Comparison
import AhsApp.Library.SortedList
import AhsApp.Android.BulletinAdapter
import AhsApp.Android.FirebaseHandler
import AhsApp.Android.Dots
import AhsApp.Android.NotifActivity
import AhsApp.Android.NotifReadMarks
import AhsApp.Android.SavedList
import AhsApp.Android.SavedScreen
import AhsApp.Android.SavedBinding
import AhsApp.Ios.UnreadBadge
import AhsApp.Ios.TopicSubscriptions
import AhsApp.Ios.HomeDecoder
import AhsApp.Agreement.HomeFeed
import AhsApp.Ios.FeedConvergence
import AhsApp.Ios.SavedArticles
import AhsApp.Android.VideoPages
import AhsApp.Android.FilterItems
import AhsApp.Android.NewsDecoder
import AhsApp.Ios.CategorySafety
import AhsApp.Ios.PushTap
import AhsApp.Library.SqlText
import AhsApp.Android.LookupById
import AhsApp.Android.CacheLookup
import AhsApp.Library.BinarySearch
import AhsApp.Library.StableSort
import AhsApp.Android.CategoryAdapter
import AhsApp.Android.NewestFirst
import AhsApp.Android.BulletinOrder
import AhsApp.Ios.TimeOrder
import AhsApp.Agreement.BulletinOrder
import AhsApp.Android.TimeText
import AhsApp.Ios.EpochText
import AhsApp.Android.Ellipsis
import AhsApp.Ios.SavedOrder
import AhsApp.Ios.ArticlePairs
import AhsApp.Agreement.HomePages
import AhsApp.Android.NotifService
import AhsApp.Android.CachedLaunch
import AhsApp.Android.HomePage
import AhsApp.Android.HomeClicks
import AhsApp.Android.SettingsScreens
import AhsApp.Android.SettingsShown
import AhsApp.Ios.ArticleReports
import AhsApp.Ios.OpenedArticles
import AhsApp.Ios.MainScreen
import AhsApp.Ios.SavedPage
import AhsApp.Agreement.BulletinPages
import AhsApp.Ios.HomeScreen
import AhsApp.Agreement.HomeScreens
import AhsApp.Android.NotifOrder
import AhsApp.Ios.NotificationPage
import AhsApp.Agreement.NotificationPages
import AhsApp.Android.NotifDots
import AhsApp.Android.NotifRows
import AhsApp.Ios.AboutUs
